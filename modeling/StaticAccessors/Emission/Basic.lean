import StaticAccessors.Fault

/-!
# Emission

Code is emitted as a list of lines, each with the depth at which it stands. An emission is the lines
written so far together with how it ended, so a fault in the middle keeps what was written before
it. How a line looks is settled later (`Layout`); an emission does not depend on it.

## Contents
- `Line` and `Emission`, a monad that appends lines.
- `Emission.write`: one line, refused below depth zero.
- `Emission.writeAll`: lines at one depth.
-/

namespace StaticAccessors

/-- A line of code at a depth; the empty text is a blank line. -/
structure Line where
  depth : Nat
  text : String
deriving Repr, DecidableEq

/-- Lines, and the result or the fault that ended them. -/
structure Emission (α : Type) where
  lines : List Line
  outcome : Except Fault α

namespace Emission

variable {α β : Type}

/-- Writes nothing. -/
def done (a : α) : Emission α := ⟨[], .ok a⟩

/-- Ends with a fault. -/
def fail (fault : Fault) : Emission α := ⟨[], .error fault⟩

/-- Writes the lines of the first, and then those of what follows if the first did not fail. -/
def andThen (x : Emission α) (next : α → Emission β) : Emission β :=
  match x.outcome with
  | .ok a => ⟨x.lines ++ (next a).lines, (next a).outcome⟩
  | .error fault => ⟨x.lines, .error fault⟩

instance : Monad Emission where
  pure := done
  bind := andThen

/-- A computation that writes nothing. -/
def lift (outcome : Except Fault α) : Emission α := ⟨[], outcome⟩

/-- One line. -/
def write (depth : Int) (text : String) : Emission Unit :=
  if depth < 0 then fail (.negativeDepth (.int depth)) else ⟨[⟨depth.toNat, text⟩], .ok ()⟩

/-- A blank line. -/
def blank (depth : Int) : Emission Unit := write depth ""

/-- One line for each element, in order. -/
def writeAll (depth : Int) (line : α → String) : List α → Emission Unit
  | [] => done ()
  | a :: rest => do
    write depth (line a)
    writeAll depth line rest

/-- At depth zero and deeper a line is written. -/
theorem write_of_nonneg {depth : Int} (h : 0 ≤ depth) (text : String) :
    write depth text = ⟨[⟨depth.toNat, text⟩], .ok ()⟩ := by
  simp [write, Int.not_lt.mpr h]

/-- Below depth zero nothing is written. -/
theorem write_of_neg {depth : Int} (h : depth < 0) (text : String) :
    write depth text = fail (.negativeDepth (.int depth)) := by
  simp [write, h]

@[simp] theorem bind_done (a : α) (next : α → Emission β) : (done a >>= next) = next a := by
  simp [bind, andThen, done]

@[simp] theorem bind_fail (fault : Fault) (next : α → Emission β) :
    (fail fault >>= next) = fail fault := rfl

/-- Emissions are chained in any grouping. -/
theorem bind_assoc {γ : Type} (x : Emission α) (f : α → Emission β) (g : β → Emission γ) :
    (x >>= f >>= g) = (x >>= fun a => f a >>= g) := by
  obtain ⟨lines, outcome⟩ := x
  cases outcome with
  | error fault => rfl
  | ok a =>
    simp only [bind, andThen]
    cases (f a).outcome <;> simp [List.append_assoc]

end Emission

end StaticAccessors
