import Mathlib.Algebra.Group.Nat.Defs
import Mathlib.Algebra.Group.Int.Defs

/-! Values of the JSON library and the typed readers over them. Testing, reading or
writing a member of a value that is neither null nor an object is the library's
logic error. The readers stay parameters under their documented behaviour. -/
namespace HelloMantids

/-- The library's value kinds; a real is the double mantissa·2^exponent. -/
inductive Json where
  | null
  | bool (value : Bool)
  | int (value : Int)
  | uint (value : Nat)
  | real (mantissa exponent : Int)
  | string (value : String)
  | array (elements : List Json)
  | object (members : List (String × Json))
  deriving Repr

inductive Fault where
  | requiresObject
  deriving DecidableEq, Repr

namespace Json

def members? : Json → Option (List (String × Json))
  | .null => some []
  | .object members => some members
  | _ => none

def Keyed (j : Json) : Prop := j.members?.isSome = true
instance (j : Json) : Decidable j.Keyed := by unfold Keyed; infer_instance

def find? (j : Json) (key : String) : Option Json := j.members?.bind (·.lookup key)

def isMember (j : Json) (key : String) : Except Fault Bool :=
  match j.members? with
  | some members => .ok (members.lookup key).isSome
  | none => .error .requiresObject

def get (j : Json) (key : String) : Except Fault Json :=
  match j.members? with
  | some members => .ok ((members.lookup key).getD .null)
  | none => .error .requiresObject

def put (key : String) (value : Json) : List (String × Json) → List (String × Json)
  | [] => [(key,value)]
  | (name,old)::rest => if name = key then (key,value)::rest else (name,old)::put key value rest

def set (j : Json) (key : String) (value : Json) : Except Fault Json :=
  match j.members? with
  | some members => .ok (.object (put key value members))
  | none => .error .requiresObject

theorem lookupPutSame (key : String) (value : Json) (members : List (String × Json)) :
    (put key value members).lookup key = some value := by
  induction members with
  | nil => simp [put]
  | cons head rest ih =>
    obtain ⟨name,old⟩ := head
    by_cases same : name = key
    · simp [put,same]
    · have other : (key == name) = false := by simpa using Ne.symm same
      simp [put,same,List.lookup_cons,other,ih]

theorem lookupPutOther {key other : String} (different : other ≠ key) (value : Json)
    (members : List (String × Json)) :
    (put key value members).lookup other = members.lookup other := by
  have no : (other == key) = false := by simpa using different
  induction members with
  | nil => simp [put,List.lookup_cons,no]
  | cons head rest ih =>
    obtain ⟨name,old⟩ := head
    by_cases same : name = key
    · subst same; simp [put,List.lookup_cons,no]
    · simp only [put,if_neg same,List.lookup_cons,ih]

theorem setKeyed {j : Json} (keyed : j.Keyed) (key : String) (value : Json) :
    ∃ members, j.members? = some members ∧ j.set key value = .ok (.object (put key value members)) := by
  obtain ⟨members,found⟩ := Option.isSome_iff_exists.mp keyed
  exact ⟨members,found,by simp only [set,found]⟩

theorem setNotKeyed {j : Json} (bad : ¬ j.Keyed) (key : String) (value : Json) :
    j.set key value = .error .requiresObject := by
  have missing : j.members? = none := by simpa [Keyed] using bad
  simp only [set,missing]

theorem setObject (members : List (String × Json)) (key : String) (value : Json) :
    (Json.object members).set key value = .ok (.object (put key value members)) := rfl

theorem findObject (members : List (String × Json)) (key : String) :
    (Json.object members).find? key = members.lookup key := rfl

theorem findNotKeyed {j : Json} (bad : ¬ j.Keyed) (key : String) : j.find? key = none := by
  have missing : j.members? = none := by simpa [Keyed] using bad
  simp only [find?,missing,Option.bind_none]

theorem getKeyed {j : Json} (keyed : j.Keyed) (key : String) :
    j.get key = .ok ((j.find? key).getD .null) := by
  obtain ⟨members,found⟩ := Option.isSome_iff_exists.mp keyed
  simp only [get,find?,found,Option.bind_some]

theorem isMemberKeyed {j : Json} (keyed : j.Keyed) (key : String) :
    j.isMember key = .ok (j.find? key).isSome := by
  obtain ⟨members,found⟩ := Option.isSome_iff_exists.mp keyed
  simp only [isMember,find?,found,Option.bind_some]

theorem isMemberNotKeyed {j : Json} (bad : ¬ j.Keyed) (key : String) :
    j.isMember key = .error .requiresObject := by
  have missing : j.members? = none := by simpa [Keyed] using bad
  simp only [isMember,missing]

def asUnsigned? : Json → Option Nat
  | .uint n => if n < 2^32 then some n else none
  | .int i => if 0 ≤ i ∧ i < 2^32 then some i.toNat else none
  | .real m e =>
      let scaled := if 0 ≤ e then m * 2^e.toNat else m / 2^(-e).toNat
      let integral := 0 ≤ e ∨ m % 2^(-e).toNat = 0
      if integral ∧ 0 ≤ scaled ∧ scaled < 2^32 then some scaled.toNat else none
  | _ => none

def unsignedMember? (j : Json) (key : String) : Option Nat := (j.find? key).bind asUnsigned?

end Json

structure Readers where
  asString : Json → String → String → String
  asCString : Json → String → String → String
  asBool : Json → String → Bool → Bool
  asInt : Json → String → Int → Int
  asUInt : Json → String → Nat → Nat
  toStyledString : Json → String

/-- What the readers document: a member of the right kind is read as it is, and the
default stands for an absent member and for one of another kind. -/
structure Readers.Documented (R : Readers) : Prop where
  string {j key s} (d) : j.find? key = some (.string s) → R.asString j key d = s
  notString {j key} (d) : (∀ s, j.find? key ≠ some (.string s)) → R.asString j key d = d
  bool {j key b} (d) : j.find? key = some (.bool b) → R.asBool j key d = b
  unsigned {j key n} (d) : j.unsignedMember? key = some n → R.asUInt j key d = n
  notUnsigned {j key} (d) : j.unsignedMember? key = none → R.asUInt j key d = d

theorem Readers.stringNotKeyed {R : Readers} (law : R.Documented) {j : Json} (bad : ¬ j.Keyed)
    (key d : String) : R.asString j key d = d :=
  law.notString d fun s found => by simp [Json.findNotKeyed bad] at found

def Readers.plain : Readers where
  asString j key d := match j.find? key with | some (.string s) => s | _ => d
  asCString j key d := match j.find? key with | some (.string s) => s | _ => d
  asBool j key d := match j.find? key with | some (.bool b) => b | _ => d
  asInt j key d := match j.find? key with | some (.int i) => i | some (.uint n) => n | _ => d
  asUInt j key d := (j.unsignedMember? key).getD d
  toStyledString j := reprStr j

theorem Readers.plainDocumented : Readers.plain.Documented where
  string d found := by simp only [plain,found]
  notString {j key} d absent := by
    change (match j.find? key with | some (.string s) => s | _ => d) = d
    split
    · rename_i s found; exact absurd found (absent s)
    · rfl
  bool d found := by simp only [plain,found]
  unsigned d found := by simp only [plain,found,Option.getD_some]
  notUnsigned d missing := by simp only [plain,missing,Option.getD_none]

end HelloMantids
