import StaticAccessors.Proofs.Template.Rendering
import StaticAccessors.Proofs.Text.Lines
import StaticAccessors.Template.EmptyScript

/-!
# What the empty script looks like

The template of the empty script is cut into pieces, and the pieces are put together to a tree
(`ofText_emptyScript`). Rendered, each section of the tree gives some lines: one for each directive, a blank
one, those that open the namespace, the attribute, the class, and the one that closes the namespace.

The values stand in these lines as they are. What looks like a slot, a tag or a line end in a value is text
like any other: the template is cut before a value is inserted.

## Contents
- `Skeleton`: what an empty script is made of, with its context and its lines.
- `Part.ofPiece_slot`, `Part.ofPiece_branch`, `Part.ofPiece_loop`, `Part.ofPiece_closer`.
- `emptyTree`, and `ofText_emptyScript`.
- `Skeleton.Stands`, and the sections.
- `renderEmptyScript_skeleton`.
-/

namespace StaticAccessors.Template

open Text

/-! ## Scripts to be -/

/-- What an empty script is made of. The namespace and the attribute may be missing. -/
structure Skeleton where
  directives : List String
  namespace_ : Value
  assetMenu : Value
  declaration : String
  indent : String

namespace Skeleton

/-- The context in which the template is rendered. -/
def context (k : Skeleton) : Fields := [
  ("directives", .list (k.directives.map .text)), ("namespace", k.namespace_), ("asset_menu", k.assetMenu),
  ("class_declaration", .text k.declaration), ("indent", .text k.indent)]

/-- The lines above the class: directives, a blank line, and what opens the namespace. -/
def above (k : Skeleton) : List String :=
  k.directives.map (fun d => "using " ++ d ++ ";") ++ [""] ++
    if k.namespace_.truthy then ["namespace " ++ k.namespace_.display, "\x7b"] else []

/-- The lines of the class. -/
def class_ (k : Skeleton) : List String :=
  (if k.assetMenu.truthy then [k.indent ++ k.assetMenu.display] else []) ++
    [k.indent ++ k.declaration, k.indent ++ "\x7b", k.indent ++ "\x7d"]

/-- All lines. -/
def lines (k : Skeleton) : List String :=
  k.above ++ k.class_ ++ if k.namespace_.truthy then ["\x7d"] else []

end Skeleton

/-! ## The tree of the template -/

/-- A word that names something: it is well-formed, and neither the negation nor a constant. -/
def IsPlain (word : String) : Prop :=
  isMalformedName word = false ∧ word ≠ negator ∧ constants.has word = false

instance (word : String) : Decidable (IsPlain word) := inferInstanceAs (Decidable (_ ∧ _ ∧ _))

section

variable {inside : List Char} {word item source : String}

theorem requireName_of_plain (h : IsPlain word) : requireName word = .ok () := by
  unfold requireName
  rw [h.1]
  rfl

/-- A plain word is read as a name. -/
theorem Term.read_of_plain (h : IsPlain word) (closing : Closing) (missing : Defect) (rest : List String) :
    Term.read closing missing (word :: rest) = .ok (.name word, rest) := by
  have name : Term.ofWord word = .name word := by
    unfold Term.ofWord
    rw [Option.not_isSome_iff_eq_none.mp (Bool.eq_false_iff.mp h.2.2)]
  unfold Term.read
  rw [requireName_of_plain h, if_neg h.2.1, name]
  rfl

theorem Part.ofPiece_slot (words : wordsOf inside = [word]) (h : IsPlain word) :
    Part.ofPiece (.slot inside .slot) = .node (.slot (.name word)) := by
  unfold ofPiece ofSlot
  dsimp only
  rw [words, Term.read_of_plain h]
  rfl

theorem Part.ofPiece_branch (words : wordsOf inside = [BlockKind.branch.opener, word]) (h : IsPlain word) :
    Part.ofPiece (.tag inside .tag) = .opens (.branch (.name word)) := by
  have opener := requireName_of_plain (by decide +kernel : IsPlain BlockKind.branch.opener)
  unfold ofPiece ofTag ofBranch
  dsimp only
  rw [words]
  dsimp only
  rw [opener, Term.read_of_plain h]
  rfl

theorem Part.ofPiece_loop (words : wordsOf inside = [BlockKind.loop.opener, item, loopWord, source])
    (hi : IsPlain item) (hs : IsPlain source) :
    Part.ofPiece (.tag inside .tag) = .opens (.loop item (.name source)) := by
  have opener := requireName_of_plain (by decide +kernel : IsPlain BlockKind.loop.opener)
  have between : (some loopWord).forM requireName = .ok () := requireName_of_plain (by decide +kernel)
  unfold ofPiece ofTag ofLoop
  dsimp only
  rw [words]
  dsimp only
  rw [opener, requireName_of_plain hi, List.head?_cons, between, hi.2.2,
    Term.read_of_plain hs]
  rfl

theorem Part.ofPiece_closer {kind : BlockKind} (words : wordsOf inside = [kind.closer]) :
    Part.ofPiece (.tag inside .tag) = .closes kind none := by
  have closer : requireName kind.closer = .ok () :=
    requireName_of_plain (by cases kind <;> decide +kernel)
  unfold ofPiece ofTag
  dsimp only
  rw [words]
  dsimp only
  rw [closer]
  cases kind <;> rfl

end

/-- The pieces of the template. -/
def emptyPieces : List Piece := [
  .text [], .tag " for directive in directives ".toList .tag,
  .text "using ".toList, .slot " directive ".toList .slot, .text ";\n".toList, .tag " endfor ".toList .tag,
  .text "\n".toList, .tag " if namespace ".toList .tag,
  .text "namespace ".toList, .slot " namespace ".toList .slot, .text "\n\x7b\n".toList, .tag " endif ".toList .tag,
  .text [], .tag " if asset_menu ".toList .tag,
  .text [], .slot " indent ".toList .slot, .text [], .slot " asset_menu ".toList .slot, .text "\n".toList,
  .tag " endif ".toList .tag,
  .text [], .slot " indent ".toList .slot, .text [], .slot " class_declaration ".toList .slot, .text "\n".toList,
  .slot " indent ".toList .slot, .text "\x7b\n".toList, .slot " indent ".toList .slot, .text "\x7d\n".toList,
  .tag " if namespace ".toList .tag, .text "\x7d\n".toList, .tag " endif ".toList .tag, .text []]

/-- The section of the directives. -/
def directiveNodes : List Node := [
  .text [],
  .loop "directive" (.name "directives") [.text "using ".toList, .slot (.name "directive"), .text ";\n".toList],
  .text "\n".toList]

/-- The section that opens the namespace. -/
def namespaceNodes : List Node := [
  .branch (.name "namespace") [.text "namespace ".toList, .slot (.name "namespace"), .text "\n\x7b\n".toList]]

/-- The section of the class, with the attribute above it. -/
def classNodes : List Node := [
  .text [],
  .branch (.name "asset_menu")
    [.text [], .slot (.name "indent"), .text [], .slot (.name "asset_menu"), .text "\n".toList],
  .text [], .slot (.name "indent"), .text [], .slot (.name "class_declaration"), .text "\n".toList,
  .slot (.name "indent"), .text "\x7b\n".toList, .slot (.name "indent"), .text "\x7d\n".toList]

/-- The section that closes the namespace. -/
def closingNodes : List Node := [.branch (.name "namespace") [.text "\x7d\n".toList], .text []]

/-- The tree of the template. -/
def emptyTree : List Node := directiveNodes ++ namespaceNodes ++ classNodes ++ closingNodes

theorem ofText_emptyPieces : Piece.ofText emptyScript = emptyPieces := by
  have characters : emptyScript.toList = emptyScriptLines.flatMap fun line => line.toList ++ ['\n'] := by
    unfold emptyScript
    rw [String.toList_join, List.flatMap_map]
    simp only [String.toList_append]
    rfl
  unfold Piece.ofText
  rw [characters]
  decide +kernel

/-- **The template is read as this tree.** -/
theorem ofText_emptyScript : Node.ofText emptyScript = .ok emptyTree := by
  have each : Part.ofPiece (.tag " for directive in directives ".toList .tag) =
      .opens (.loop "directive" (.name "directives")) :=
    Part.ofPiece_loop (by decide +kernel) (by decide +kernel) (by decide +kernel)
  have endEach : Part.ofPiece (.tag " endfor ".toList .tag) = .closes .loop none :=
    Part.ofPiece_closer (by decide +kernel)
  have endIf : Part.ofPiece (.tag " endif ".toList .tag) = .closes .branch none :=
    Part.ofPiece_closer (by decide +kernel)
  have ifNamespace : Part.ofPiece (.tag " if namespace ".toList .tag) = .opens (.branch (.name "namespace")) :=
    Part.ofPiece_branch (by decide +kernel) (by decide +kernel)
  have ifAssetMenu : Part.ofPiece (.tag " if asset_menu ".toList .tag) = .opens (.branch (.name "asset_menu")) :=
    Part.ofPiece_branch (by decide +kernel) (by decide +kernel)
  have directive : Part.ofPiece (.slot " directive ".toList .slot) = .node (.slot (.name "directive")) :=
    Part.ofPiece_slot (by decide +kernel) (by decide +kernel)
  have namespace_ : Part.ofPiece (.slot " namespace ".toList .slot) = .node (.slot (.name "namespace")) :=
    Part.ofPiece_slot (by decide +kernel) (by decide +kernel)
  have assetMenu : Part.ofPiece (.slot " asset_menu ".toList .slot) = .node (.slot (.name "asset_menu")) :=
    Part.ofPiece_slot (by decide +kernel) (by decide +kernel)
  have declaration : Part.ofPiece (.slot " class_declaration ".toList .slot) =
      .node (.slot (.name "class_declaration")) :=
    Part.ofPiece_slot (by decide +kernel) (by decide +kernel)
  have indent : Part.ofPiece (.slot " indent ".toList .slot) = .node (.slot (.name "indent")) :=
    Part.ofPiece_slot (by decide +kernel) (by decide +kernel)
  have text (cs : List Char) : Part.ofPiece (.text cs) = .node (.text cs) := rfl
  unfold Node.ofText
  rw [ofText_emptyPieces]
  unfold emptyPieces
  simp only [List.map_cons, List.map_nil, each, endEach, endIf, ifNamespace, ifAssetMenu, directive, namespace_,
    assetMenu, declaration, indent, text]
  rfl

/-! ## Rendering -/

/-- Lines, each followed by a line end. -/
def ended (n : Newline) (lines : List String) : List Char := lines.flatMap fun line => line.toList ++ n.chars

theorem ended_append (n : Newline) (xs ys : List String) : ended n (xs ++ ys) = ended n xs ++ ended n ys :=
  List.flatMap_append

namespace Skeleton

variable {k : Skeleton} {n : Newline} {scope : Scope}

/-- The names of the template stand for what the script is made of. -/
structure Stands (k : Skeleton) (scope : Scope) : Prop where
  directives : scope.find? "directives" = some (.value (.list (k.directives.map .text)))
  namespace_ : scope.find? "namespace" = some (.value k.namespace_)
  assetMenu : scope.find? "asset_menu" = some (.value k.assetMenu)
  declaration : scope.find? "class_declaration" = some (.value (.text k.declaration))
  indent : scope.find? "indent" = some (.value (.text k.indent))

theorem stands_scopeOf (k : Skeleton) (name : String) : k.Stands (Engine.scopeOf name emptyTree k.context) :=
  ⟨rfl, rfl, rfl, rfl, rfl⟩

/-- Each directive has a line, and a blank one ends them. -/
theorem render_directives (h : k.Stands scope) :
    Renders n scope directiveNodes (ended n (k.directives.map (fun d => "using " ++ d ++ ";") ++ [""])) := by
  have each (index total : Nat) (v : Value) : Renders n (scope.inTurn "directive" index total v) _ _ :=
    .text "using ".toList (.slot (scope.find?_inTurn "directive" index total v) (.text ";\n".toList .nil))
  have rendered : Renders n scope directiveNodes _ :=
    .text [] (.loop h.directives each (.text "\n".toList .nil))
  refine rendered.of_eq ?_
  simp [ended, Newline.apply, List.flatMap_map]

/-- The namespace is opened if there is one. -/
theorem render_namespace (h : k.Stands scope) :
    Renders n scope namespaceNodes
      (ended n (if k.namespace_.truthy then ["namespace " ++ k.namespace_.display, "\x7b"] else [])) := by
  have rendered : Renders n scope namespaceNodes _ :=
    .branch h.namespace_ (.text "namespace ".toList (.slot h.namespace_ (.text "\n\x7b\n".toList .nil))) .nil
  refine rendered.of_eq ?_
  by_cases named : k.namespace_.truthy = true <;> simp [ended, Newline.apply, named]

/-- The class stands in braces, below the attribute if there is one. -/
theorem render_class (h : k.Stands scope) : Renders n scope classNodes (ended n k.class_) := by
  have braces : Renders n scope _ _ :=
    .slot h.indent (.text "\x7b\n".toList (.slot h.indent (.text "\x7d\n".toList .nil)))
  have class_ : Renders n scope _ _ :=
    .text [] (.slot h.indent (.text [] (.slot h.declaration (.text "\n".toList braces))))
  have attribute_ : Renders n scope _ _ :=
    .text [] (.slot h.indent (.text [] (.slot h.assetMenu (.text "\n".toList .nil))))
  have rendered : Renders n scope classNodes _ := .text [] (.branch h.assetMenu attribute_ class_)
  refine rendered.of_eq ?_
  unfold Skeleton.class_
  by_cases shown : k.assetMenu.truthy = true <;> simp [ended, Newline.apply, shown]

/-- The namespace is closed if it was opened. -/
theorem render_closing (h : k.Stands scope) :
    Renders n scope closingNodes (ended n (if k.namespace_.truthy then ["\x7d"] else [])) := by
  have rendered : Renders n scope closingNodes _ :=
    .branch h.namespace_ (.text "\x7d\n".toList .nil) (.text [] .nil)
  refine rendered.of_eq ?_
  by_cases named : k.namespace_.truthy = true <;> simp [ended, Newline.apply, named]

/-- **The tree is rendered as the lines of the script.** -/
theorem render_tree (h : k.Stands scope) : Renders n scope emptyTree (ended n k.lines) := by
  have above := (render_directives (n := n) h).append (render_namespace h)
  refine ((above.append (render_class h)).append (render_closing h)).of_eq ?_
  unfold Skeleton.lines Skeleton.above
  simp only [ended_append]

/-- The text of the script. -/
def text (k : Skeleton) (lineEnd : String) : String := String.join (k.lines.map (· ++ lineEnd))

theorem toList_text (k : Skeleton) (n : Newline) : (k.text (String.ofList n.chars)).toList = ended n k.lines := by
  unfold text ended
  rw [String.toList_join, List.flatMap_map]
  simp only [String.toList_append, String.toList_ofList]

end Skeleton

/-! ## The engine of the template -/

theorem builtin_newline (n : Newline) :
    Engine.builtin (.text (String.ofList n.chars)) = .ok ⟨n, [(emptyScriptName, emptyScript)]⟩ := by
  have created : Engine.create (.text (String.ofList n.chars)) = .ok ⟨n, []⟩ := by
    have known : (Value.text (String.ofList n.chars)).text?.bind Newline.ofText? = some n := n.ofText?_chars
    unfold Engine.create
    rw [known]
    rfl
  unfold Engine.builtin
  rw [created]
  rfl

/-- An engine is made for the three line ends and for nothing else. -/
theorem exists_builtin_iff {v : Value} :
    (∃ e, Engine.builtin v = .ok e) ↔ ∃ n : Newline, v = .text (String.ofList n.chars) := by
  constructor
  · rintro ⟨e, made⟩
    obtain ⟨bare, created, -⟩ := Outcome.map_eq_ok.mp made
    unfold Engine.create at created
    split at created
    · exact absurd created nofun
    split at created
    · rename_i n found
      obtain ⟨t, text, found⟩ := Option.bind_eq_some_iff.mp found
      unfold Newline.ofText? at found
      have chosen := List.find?_some found
      have same : String.ofList n.chars = t := of_decide_eq_true chosen
      cases v with
      | text s => exact ⟨n, by rw [same, ← Option.some.inj text]⟩
      | _ => exact absurd text nofun
    · exact absurd created nofun
  · rintro ⟨n, rfl⟩
    exact ⟨_, builtin_newline n⟩

/-- A template is rendered as its tree is. -/
theorem Engine.render_of_tree {e : Engine} {name content : String} {context : Fields} {tree : List Node}
    {cs : List Char} (listed : e.templates.get? name = some content) (read : Node.ofText content = .ok tree)
    (own : Table.has context selfName = false)
    (rendered : Renders e.newline (scopeOf name tree context) tree cs) :
    e.render name context = .ok (String.ofList cs) := by
  unfold render render?
  rw [listed]
  dsimp only
  rw [read]
  dsimp only
  rw [own, rendered]
  rfl

/-- **The empty script.** Its engine accepts the three line ends and nothing else, and with each of them the
template is rendered as the lines of the script, for any values. -/
theorem renderEmptyScript_skeleton :
    (∀ v : Value, (∃ e, Engine.builtin v = .ok e) ↔ ∃ n : Newline, v = .text (String.ofList n.chars)) ∧
    ∀ (n : Newline) (k : Skeleton),
      renderEmptyScript (.text (String.ofList n.chars)) k.context = .ok (k.text (String.ofList n.chars)) := by
  refine ⟨fun v => exists_builtin_iff, fun n k => ?_⟩
  have listed : Table.get? [(emptyScriptName, emptyScript)] emptyScriptName = some emptyScript := if_pos rfl
  have own : Table.has k.context selfName = false := rfl
  have tree := Skeleton.render_tree (n := n) (k.stands_scopeOf emptyScriptName)
  rw [← String.ofList_toList (s := k.text _), Skeleton.toList_text]
  exact Outcome.bind_eq_ok.mpr
    ⟨⟨n, [(emptyScriptName, emptyScript)]⟩, builtin_newline n,
      Engine.render_of_tree listed ofText_emptyScript own tree⟩

end StaticAccessors.Template
