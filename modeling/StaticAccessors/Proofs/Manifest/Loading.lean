import StaticAccessors.Manifest.Source
import StaticAccessors.Proofs.Disk.Reading

/-!
# Loading manifests

A load is meant to end in one of three ways (`Ended`): with a document, with a refusal in the words of the source,
or with the report that the file is missing. Other faults pass through it, and they all come from something that
is looked at outside of what is caught, or is of another kind than what is caught (`Obstacle`): a name too long for
the disk, bytes that are no text, an address with an authority that is not well formed, a text beyond the limits of
the reader, and a source that is no text at all.

Where there is no such obstacle, a load ends as it should, and where there is one, the fault is the obstacle's
(`load_exact`).

## Contents
- `Exceeds`, `parsed`, and `parsed_cases`: what becomes of a text.
- `FileObstacle`: loads from files.
- `Located`, `UrlObstacle`: loads from addresses.
- `GivesFile`, `GivesUrl`, `Finds`, `Obstacle`: loads from one of the two.
- `Ended`, `LoadsExactly`, and `load_exact`.
-/

namespace StaticAccessors.Source

open Disk (readBytes_error readText_eq_error_iff)

variable {d : Disk} {here : Location} {path : FilePath} {text address : String} {file url document : Value}
  {response : Response} {records : List Record} {fault : Fault}

/-! ## Texts -/

/-- A text is beyond a limit of the reader: a number in it has too many digits, or it is nested too deep. -/
inductive Exceeds (text : String) : Fault → Prop
  | digits {refusal} : Json.read text = .error refusal → refusal.problem = .tooManyDigits → Exceeds text .badValue
  | depth {refusal} : Json.read text = .error refusal → refusal.problem = .tooDeep → Exceeds text .tooDeep

/-- A fault that tells of a limit tells of the one that was met. -/
theorem exceeds_of_ofExcess? {refusal : Json.Refusal} (read : Json.read text = .error refusal)
    (excess : Fault.ofExcess? refusal = some fault) : Exceeds text fault := by
  unfold Fault.ofExcess? at excess
  split at excess
  · rename_i digits
    rw [← Option.some.inj excess]
    exact .digits read digits
  · rename_i depth
    rw [← Option.some.inj excess]
    exact .depth read depth
  · exact absurd excess nofun

theorem Exceeds.exists_ofExcess? (h : Exceeds text fault) :
    ∃ refusal, Json.read text = .error refusal ∧ Fault.ofExcess? refusal = some fault := by
  cases h with
  | digits read problem | depth read problem =>
    refine ⟨_, read, ?_⟩
    unfold Fault.ofExcess?
    rw [problem]

/-- Reads the document in a text; a refusal is reported in the words of the source. -/
def parsed (source text : String) (report : Json.Refusal → SourceError) (records : List Record) : Loading :=
  match Json.read text with
  | .ok document => loaded source document records
  | .error refusal =>
    match Fault.ofExcess? refusal with
    | some fault => (.error fault, records)
    | none => refused (report refusal) records

/-- Files are read like this. -/
theorem parseFile_eq (path : FilePath) (text : String) (records : List Record) :
    parseFile path text records = parsed path.text text (.malformed path) records := rfl

/-- So are answers. -/
theorem parseBody_eq (url body : String) (records : List Record) :
    parseBody url body records = parsed url body (fun refusal => .request url refusal.message) records := rfl

section

variable {source : String} {report : Json.Refusal → SourceError}

theorem parsed_of_read (read : Json.read text = .ok document) :
    (parsed source text report records).1 = .ok (source, document) := by
  unfold parsed
  rw [read]
  rfl

theorem parsed_of_exceeds (h : Exceeds text fault) : (parsed source text report records).1 = .error fault := by
  obtain ⟨refusal, read, excess⟩ := h.exists_ofExcess?
  unfold parsed
  rw [read]
  dsimp only
  rw [excess]

/-- **What becomes of a text**: a document is read from it, it is refused, or it is beyond a limit. -/
theorem parsed_cases (source text : String) (report : Json.Refusal → SourceError) (records : List Record) :
    (∃ document, Json.read text = .ok document) ∨
      (∃ cause, (parsed source text report records).1 = .error (.source cause)) ∨ ∃ fault, Exceeds text fault := by
  cases read : Json.read text with
  | ok document => exact .inl ⟨document, rfl⟩
  | error refusal =>
    cases excess : Fault.ofExcess? refusal with
    | some fault => exact .inr (.inr ⟨fault, exceeds_of_ofExcess? read excess⟩)
    | none =>
      refine .inr (.inl ⟨report refusal, ?_⟩)
      unfold parsed
      rw [read]
      dsimp only
      rw [excess]
      rfl

end

/-! ## Files -/

/-- What makes the load from a file end with a fault that is not reported. -/
inductive FileObstacle (d : Disk) (here : Location) (path : FilePath) : Fault → Prop
  /-- The path, or a name on its way, is too long. -/
  | tooLong : d.TooLong here path → FileObstacle d here path (.disk ⟨.nameTooLong, some path.text⟩)
  /-- The bytes of the file are no text. -/
  | undecodable {content : ByteArray} : d.readBytes here path = .ok content → String.fromUTF8? content = none →
      FileObstacle d here path .undecodable
  /-- The text of the file is beyond a limit of the reader. -/
  | excess {text : String} {fault : Fault} : d.readText here path = .ok text → Exceeds text fault → FileObstacle d here path fault

/-- The load from a file that is absent ends with the report that it is missing. -/
theorem fromFile_of_absent (absent : d.Absent here path) :
    (fromFile d here path).1 = .error (.manifestMissing path) := by
  unfold fromFile
  rw [Disk.pathExists_of_absent absent]

/-- The load from a file that is there goes on with its text. -/
theorem fromFile_of_readText (read : d.readText here path = .ok text) :
    ∃ records, fromFile d here path = parsed path.text text (.malformed path) records := by
  unfold fromFile
  rw [Disk.pathExists_of_there (Disk.there_of_readText read), read]
  exact ⟨_, parseFile_eq path text _⟩

/-- An obstacle is what the load ends with. -/
theorem FileObstacle.fromFile (h : FileObstacle d here path fault) : (fromFile d here path).1 = .error fault := by
  cases h with
  | tooLong long =>
    unfold Source.fromFile
    rw [Disk.pathExists_of_tooLong long]
  | undecodable bytes noText =>
    have unread : d.readText here path = .error .undecodable :=
      readText_eq_error_iff.mpr (.inr ⟨_, bytes, noText, rfl⟩)
    unfold Source.fromFile
    rw [Disk.pathExists_of_there (Disk.there_of_readBytes bytes), unread]
  | excess read exceeds =>
    obtain ⟨records, goesOn⟩ := fromFile_of_readText read
    rw [goesOn]
    exact parsed_of_exceeds exceeds

/-- **How a load from a file ends**, where there is no obstacle. -/
theorem fromFile_cases (d : Disk) (here : Location) (path : FilePath) :
    (∃ text document, d.readText here path = .ok text ∧ Json.read text = .ok document) ∨
      (∃ cause, (fromFile d here path).1 = .error (.source cause)) ∨
      (d.Absent here path ∧ (fromFile d here path).1 = .error (.manifestMissing path)) ∨
      ∃ fault, FileObstacle d here path fault := by
  rcases Disk.absent_or_tooLong_or_there d here path with absent | long | there
  · exact .inr (.inr (.inl ⟨absent, fromFile_of_absent absent⟩))
  · exact .inr (.inr (.inr ⟨_, .tooLong long⟩))
  cases read : d.readText here path with
  | ok text =>
    obtain ⟨records, goesOn⟩ := fromFile_of_readText read
    rw [goesOn]
    rcases parsed_cases path.text text (.malformed path) records with ⟨document, known⟩ | refused | ⟨fault, exceeds⟩
    · exact .inl ⟨text, document, rfl, known⟩
    · exact .inr (.inl refused)
    · exact .inr (.inr (.inr ⟨fault, .excess read exceeds⟩))
  | error fault =>
    rcases readText_eq_error_iff.mp read with unread | ⟨content, bytes, noText, -⟩
    · rcases readBytes_error unread with ⟨none_, -⟩ | ⟨-, refusal, rfl⟩
      · exact absurd (there.named.symm.trans none_) nofun
      · -- What the disk refuses is reported in its words.
        refine .inr (.inl ⟨.unreadable path refusal, ?_⟩)
        unfold fromFile
        rw [Disk.pathExists_of_there there, read]
        rfl
    · exact .inr (.inr (.inr ⟨_, .undecodable bytes noText⟩))

/-! ## Addresses -/

/-- An address has a scheme and an authority. -/
def Located (address : String) : Prop :=
  ∃ parts, Url.parse? address = some parts ∧ parts.scheme ≠ "" ∧ parts.authority ≠ ""

/-- An address is answered without an error. -/
def Answered (response : Response) (body : String) : Prop :=
  ∃ status, response = .answered status body ∧ isErrorStatus status = false

/-- What makes the load from an address end with a fault that is not reported. -/
inductive UrlObstacle (address : String) (response : Response) : Fault → Prop
  /-- The authority of the address is not well formed. -/
  | malformed : Url.parse? address = none → UrlObstacle address response .badValue
  /-- The answer is beyond a limit of the reader. -/
  | excess {body : String} {fault : Fault} : Located address → Answered response body → Exceeds body fault →
      UrlObstacle address response fault

/-- The load from an address that has a scheme and an authority goes on with the answer. -/
theorem fromUrl_of_located (located : Located address) (response : Response) :
    ∃ records, fromUrl address response = fromResponse address response records := by
  obtain ⟨parts, cut, scheme, authority⟩ := located
  unfold fromUrl
  rw [cut]
  dsimp only
  rw [decide_eq_false scheme, decide_eq_false authority]
  exact ⟨_, rfl⟩

/-- An address that lacks either is cut or not, and refused if it is. -/
theorem fromUrl_of_not_located (unlocated : ¬Located address) (response : Response) :
    Url.parse? address = none ∨ (fromUrl address response).1 = .error (.source (.invalidUrl address)) := by
  cases cut : Url.parse? address with
  | none => exact .inl rfl
  | some parts =>
    have lacks : (decide (parts.scheme = "") || decide (parts.authority = "")) = true := by
      rw [Bool.or_eq_true, decide_eq_true_iff, decide_eq_true_iff]
      exact Decidable.or_iff_not_not_and_not.mpr fun whole => unlocated ⟨parts, cut, whole⟩
    refine .inr ?_
    unfold fromUrl
    rw [cut]
    dsimp only
    rw [if_pos lacks]

/-- An answer without an error goes on with its body. -/
theorem fromResponse_of_answered {body : String} (answered : Answered response body) :
    fromResponse address response records =
      parsed address body (fun refusal => .request address refusal.message) records := by
  obtain ⟨status, rfl, good⟩ := answered
  rw [← parseBody_eq]
  unfold fromResponse
  dsimp only
  rw [good]
  rfl

/-- An obstacle is what the load ends with. -/
theorem UrlObstacle.fromUrl (h : UrlObstacle address response fault) :
    (fromUrl address response).1 = .error fault := by
  cases h with
  | malformed uncut =>
    unfold Source.fromUrl
    rw [uncut]
  | excess located answered exceeds =>
    obtain ⟨records, goesOn⟩ := fromUrl_of_located located response
    rw [goesOn, fromResponse_of_answered answered]
    exact parsed_of_exceeds exceeds

/-- **How a load from an address ends**, where there is no obstacle. -/
theorem fromUrl_cases (address : String) (response : Response) :
    (∃ body document, Located address ∧ Answered response body ∧ Json.read body = .ok document) ∨
      (∃ cause, (fromUrl address response).1 = .error (.source cause)) ∨
      ∃ fault, UrlObstacle address response fault := by
  by_cases located : Located address
  · obtain ⟨records, goesOn⟩ := fromUrl_of_located located response
    rw [goesOn]
    cases response with
    | timedOut => exact .inr (.inl ⟨.timeout address, rfl⟩)
    | unreachable reason => exact .inr (.inl ⟨.request address reason, rfl⟩)
    | answered status body =>
      cases bad : isErrorStatus status with
      | true =>
        refine .inr (.inl ⟨.status status address, ?_⟩)
        unfold fromResponse
        dsimp only
        rw [bad]
        rfl
      | false =>
        have answered : Answered (.answered status body) body := ⟨status, rfl, bad⟩
        rw [fromResponse_of_answered answered]
        rcases parsed_cases address body (fun refusal => .request address refusal.message) records with
          ⟨document, known⟩ | refused | ⟨fault, exceeds⟩
        · exact .inl ⟨body, document, located, answered, known⟩
        · exact .inr (.inl refused)
        · exact .inr (.inr ⟨fault, .excess located answered exceeds⟩)
  · rcases fromUrl_of_not_located located response with uncut | refused
    · exact .inr (.inr ⟨_, .malformed uncut⟩)
    · exact .inr (.inl ⟨_, refused⟩)

/-! ## Loads -/

/-- A file alone is given. -/
structure GivesFile (file url : Value) (path : FilePath) : Prop where
  given : file.truthy = true
  alone : url.truthy = false
  named : FilePath.ofValue? file = some path

/-- An address alone is given. -/
structure GivesUrl (file url : Value) (address : String) : Prop where
  given : url.truthy = true
  alone : file.truthy = false
  named : url = .text address

theorem load_of_givesFile (h : GivesFile file url path) : load d here file url response = fromFile d here path := by
  unfold load
  rw [h.given, h.alone]
  dsimp only
  rw [h.named]

theorem load_of_givesUrl (h : GivesUrl file url address) :
    load d here file url response = fromUrl address response := by
  unfold load
  rw [h.given, h.alone]
  dsimp only
  rw [h.named]

/-- What makes a load end with a fault that is not reported. -/
inductive Obstacle (d : Disk) (here : Location) (file url : Value) (response : Response) : Fault → Prop
  /-- What is given for a file is no path. -/
  | noPath : file.truthy = true → url.truthy = false → FilePath.ofValue? file = none →
      Obstacle d here file url response .wrongType
  /-- What is given for an address is no text. -/
  | noAddress : url.truthy = true → file.truthy = false → url.text? = none →
      Obstacle d here file url response .noSuchAttribute
  | file {path : FilePath} {fault : Fault} : GivesFile file url path → FileObstacle d here path fault →
      Obstacle d here file url response fault
  | url {address : String} {fault : Fault} : GivesUrl file url address → UrlObstacle address response fault →
      Obstacle d here file url response fault

/-- What a load finds: the document in the file, or the one in the answer, with the name of its source. -/
inductive Finds (d : Disk) (here : Location) (file url : Value) (response : Response) : String → Value → Prop
  | file {path : FilePath} {text : String} {document : Value} : GivesFile file url path →
      d.readText here path = .ok text → Json.read text = .ok document →
      Finds d here file url response path.text document
  | url {address body : String} {document : Value} : GivesUrl file url address → Located address →
      Answered response body → Json.read body = .ok document → Finds d here file url response address document

/-- How a load is meant to end: with a document, with a refusal of its source, or, if a file alone is given and
nothing is there, with the report that it is missing. -/
inductive Ended (d : Disk) (here : Location) (file url : Value) : Except Fault (String × Value) → Prop
  | found (source : String) (document : Value) : Ended d here file url (.ok (source, document))
  | refused (cause : SourceError) : Ended d here file url (.error (.source cause))
  | missing {path : FilePath} : GivesFile file url path → d.Absent here path →
      Ended d here file url (.error (.manifestMissing path))

/-- The faults that are not reported. -/
inductive Unreported : Fault → Prop
  | wrongType : Unreported .wrongType
  | noSuchAttribute : Unreported .noSuchAttribute
  | badValue : Unreported .badValue
  | tooDeep : Unreported .tooDeep
  | undecodable : Unreported .undecodable
  | disk (cause : DiskError) : Unreported (.disk cause)

theorem Exceeds.unreported (h : Exceeds text fault) : Unreported fault := by
  cases h with
  | digits => exact .badValue
  | depth => exact .tooDeep

theorem FileObstacle.unreported (h : FileObstacle d here path fault) : Unreported fault := by
  cases h with
  | tooLong => exact .disk _
  | undecodable => exact .undecodable
  | excess _ exceeds => exact exceeds.unreported

theorem UrlObstacle.unreported (h : UrlObstacle address response fault) : Unreported fault := by
  cases h with
  | malformed => exact .badValue
  | excess _ _ exceeds => exact exceeds.unreported

/-- The fault of an obstacle is not reported. -/
theorem Obstacle.unreported (h : Obstacle d here file url response fault) : Unreported fault := by
  cases h with
  | noPath => exact .wrongType
  | noAddress => exact .noSuchAttribute
  | file _ obstacle => exact obstacle.unreported
  | url _ obstacle => exact obstacle.unreported

/-- So it is no end that was meant. -/
theorem Obstacle.not_ended (h : Obstacle d here file url response fault) : ¬Ended d here file url (.error fault) := by
  intro ended
  cases ended with
  | refused cause => cases h.unreported
  | missing gives absent => cases h.unreported

/-- An obstacle is what the load ends with. -/
theorem Obstacle.load (h : Obstacle d here file url response fault) :
    (load d here file url response).1 = .error fault := by
  cases h with
  | noPath given alone unnamed =>
    unfold Source.load
    rw [given, alone]
    dsimp only
    rw [unnamed]
  | noAddress given alone unnamed =>
    unfold Source.load
    rw [given, alone]
    cases url with
    | text s => exact absurd unnamed nofun
    | _ => rfl
  | file gives obstacle => rw [load_of_givesFile gives, obstacle.fromFile]
  | url gives obstacle => rw [load_of_givesUrl gives, obstacle.fromUrl]

/-- What is found is what the load ends with. -/
theorem Finds.load {source : String} (h : Finds d here file url response source document) :
    (load d here file url response).1 = .ok (source, document) := by
  cases h with
  | file gives read known =>
    obtain ⟨records, goesOn⟩ := fromFile_of_readText read
    rw [load_of_givesFile gives, goesOn]
    exact parsed_of_read known
  | url gives located answered known =>
    obtain ⟨records, goesOn⟩ := fromUrl_of_located located response
    rw [load_of_givesUrl gives, goesOn, fromResponse_of_answered answered]
    exact parsed_of_read known

/-- **How a load ends**: with what it finds, with a refusal, with the report of a missing file, or at an obstacle. -/
theorem load_cases (d : Disk) (here : Location) (file url : Value) (response : Response) :
    (∃ source document, Finds d here file url response source document) ∨
      (∃ cause, (load d here file url response).1 = .error (.source cause)) ∨
      (∃ path, GivesFile file url path ∧ d.Absent here path ∧
        (load d here file url response).1 = .error (.manifestMissing path)) ∨
      ∃ fault, Obstacle d here file url response fault := by
  cases hasFile : file.truthy <;> cases hasUrl : url.truthy
  -- No source, or both, is refused before anything is looked at.
  case false.false =>
    refine .inr (.inl ⟨.noSource, ?_⟩)
    unfold load
    rw [hasFile, hasUrl]
  case true.true =>
    refine .inr (.inl ⟨.twoSources, ?_⟩)
    unfold load
    rw [hasFile, hasUrl]
  case true.false =>
    cases named : FilePath.ofValue? file with
    | none => exact .inr (.inr (.inr ⟨_, .noPath hasFile hasUrl named⟩))
    | some path =>
      have gives : GivesFile file url path := ⟨hasFile, hasUrl, named⟩
      rw [load_of_givesFile gives]
      rcases fromFile_cases d here path with
        ⟨text, document, read, known⟩ | refused | ⟨absent, missing⟩ | ⟨fault, obstacle⟩
      · exact .inl ⟨_, document, .file gives read known⟩
      · exact .inr (.inl refused)
      · exact .inr (.inr (.inl ⟨path, gives, absent, missing⟩))
      · exact .inr (.inr (.inr ⟨fault, .file gives obstacle⟩))
  case false.true =>
    cases url with
    | text address =>
      have gives : GivesUrl file (.text address) address := ⟨hasUrl, hasFile, rfl⟩
      rw [load_of_givesUrl gives]
      rcases fromUrl_cases address response with
        ⟨body, document, located, answered, known⟩ | refused | ⟨fault, obstacle⟩
      · exact .inl ⟨_, document, .url gives located answered known⟩
      · exact .inr (.inl refused)
      · exact .inr (.inr (.inr ⟨fault, .url gives obstacle⟩))
    | _ => exact .inr (.inr (.inr ⟨_, .noAddress hasUrl hasFile rfl⟩))

/-- What a load does, for each of the ways in which it can end. -/
structure LoadsExactly (d : Disk) (here : Location) (file url : Value) (response : Response) : Prop where
  ended : Ended d here file url (load d here file url response).1 ↔
    ∀ fault, ¬Obstacle d here file url response fault
  found : ∀ source document, (load d here file url response).1 = .ok (source, document) ↔
    Finds d here file url response source document
  missing : ∀ path, (load d here file url response).1 = .error (.manifestMissing path) ↔
    GivesFile file url path ∧ d.Absent here path
  passed : ∀ fault, Obstacle d here file url response fault → (load d here file url response).1 = .error fault

/-- **Loads end as they should, or at an obstacle.** A load ends with a document, with a refusal of its source or
with the report of a missing file exactly if there is no obstacle; the document is the one to be found, and the
missing file is the one that is given and absent. An obstacle is what the load ends with. -/
theorem load_exact (d : Disk) (here : Location) (file url : Value) (response : Response) :
    LoadsExactly d here file url response where
  ended := by
    constructor
    · intro ended fault obstacle
      rw [obstacle.load] at ended
      exact obstacle.not_ended ended
    · intro clear
      rcases load_cases d here file url response with
        ⟨source, document, finds⟩ | ⟨cause, refused⟩ | ⟨path, gives, absent, missing⟩ | ⟨fault, obstacle⟩
      · rw [finds.load]
        exact .found source document
      · rw [refused]
        exact .refused cause
      · rw [missing]
        exact .missing gives absent
      · exact absurd obstacle (clear fault)
  found := by
    refine fun source document => ⟨fun ends => ?_, Finds.load⟩
    rcases load_cases d here file url response with
      ⟨source', document', finds⟩ | ⟨cause, refused⟩ | ⟨path, -, -, missing⟩ | ⟨fault, obstacle⟩
    · obtain ⟨rfl, rfl⟩ := Prod.mk.inj (Except.ok.inj (finds.load.symm.trans ends))
      exact finds
    · exact absurd (ends.symm.trans refused) nofun
    · exact absurd (ends.symm.trans missing) nofun
    · exact absurd (ends.symm.trans obstacle.load) nofun
  missing := by
    refine fun path => ⟨fun ends => ?_, fun ⟨gives, absent⟩ => ?_⟩
    · rcases load_cases d here file url response with
        ⟨source, document, finds⟩ | ⟨cause, refused⟩ | ⟨path', gives, absent, missing⟩ | ⟨fault, obstacle⟩
      · exact absurd (ends.symm.trans finds.load) nofun
      · exact absurd (ends.symm.trans refused) nofun
      · obtain rfl := Fault.manifestMissing.inj (Except.error.inj (ends.symm.trans missing))
        exact ⟨gives, absent⟩
      · obtain rfl := Except.error.inj (ends.symm.trans obstacle.load)
        cases obstacle.unreported
    · rw [load_of_givesFile gives]
      exact fromFile_of_absent absent
  passed := fun _ obstacle => obstacle.load

/-- Bytes that are no text pass through the load of a file that is there. -/
theorem undecodable_passed :
    let d : Disk := ⟨[(["bad.json"], .file ⟨#[0xff]⟩)]⟩
    (load d [] (.text "bad.json") .null .timedOut).1 = .error .undecodable ∧
      ¬Ended d [] (.text "bad.json") .null (load d [] (.text "bad.json") .null .timedOut).1 := by
  intro d
  have bytes : d.readBytes [] ⟨.here, ["bad.json"]⟩ = .ok ⟨#[0xff]⟩ := by rfl
  have gives : GivesFile (.text "bad.json") .null ⟨.here, ["bad.json"]⟩ := ⟨by decide, rfl, by decide +kernel⟩
  have obstacle : Obstacle d [] (.text "bad.json") .null .timedOut .undecodable :=
    .file gives (.undecodable bytes (by decide +kernel))
  rw [obstacle.load]
  exact ⟨rfl, obstacle.not_ended⟩

end StaticAccessors.Source
