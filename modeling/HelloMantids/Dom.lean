import Mathlib.Data.List.Basic

/-! Sibling nodes of a document, as a script sees them: lookups by element id find the
first in document order, and a change replaces that element's children. The skeleton of
nodes is their elements and attributes; blanking empties the named elements only. -/
namespace HelloMantids.Dom

inductive Nodes where
  | nil
  | text (content : String) (next : Nodes)
  | element (tag : String) (attrs : List (String × String)) (children next : Nodes)
  deriving DecidableEq, Repr

structure Element where
  tag : String
  attrs : List (String × String)
  children : Nodes
  deriving DecidableEq, Repr

namespace Nodes

def append : Nodes → Nodes → Nodes
  | .nil,b => b
  | .text s next,b => .text s (next.append b)
  | .element tag attrs children next,b => .element tag attrs children (next.append b)

def concat (blocks : List Nodes) : Nodes := blocks.foldr append .nil

def plain (s : String) : Nodes := if s = "" then .nil else .text s .nil

def ids : Nodes → List String
  | .nil => []
  | .text _ next => next.ids
  | .element _ attrs children next => (attrs.lookup "id").toList ++ children.ids ++ next.ids

def getElementById (id : String) : Nodes → Option Element
  | .nil => none
  | .text _ next => next.getElementById id
  | .element tag attrs children next =>
      if attrs.lookup "id" = some id then some ⟨tag,attrs,children⟩
      else (children.getElementById id).or (next.getElementById id)

def change (id : String) (f : Nodes → Nodes) : Nodes → Nodes
  | .nil => .nil
  | .text s next => .text s (next.change id f)
  | .element tag attrs children next =>
      if attrs.lookup "id" = some id then .element tag attrs (f children) next
      else if id ∈ children.ids then .element tag attrs (children.change id f) next
      else .element tag attrs children (next.change id f)

def skeleton : Nodes → Nodes
  | .nil => .nil
  | .text _ next => next.skeleton
  | .element tag attrs children next => .element tag attrs children.skeleton next.skeleton

def blanked (names : List String) : Nodes → Nodes
  | .nil => .nil
  | .text s next => .text s (next.blanked names)
  | .element tag attrs children next =>
      if (attrs.lookup "id").any (· ∈ names) then .element tag attrs .nil (next.blanked names)
      else .element tag attrs (children.blanked names) (next.blanked names)

def values (name : String) : Nodes → List String
  | .nil => []
  | .text _ next => next.values name
  | .element _ attrs children next =>
      (attrs.lookup name).toList ++ children.values name ++ next.values name

section Append
variable (a b c : Nodes)

@[simp] theorem appendNil : a.append .nil = a := by
  induction a with
  | nil => rfl
  | text s next ih => simp only [append,ih]
  | element tag attrs children next _ ih => simp only [append,ih]

theorem appendAssoc : (a.append b).append c = a.append (b.append c) := by
  induction a with
  | nil => rfl
  | text s next ih => simp only [append,ih]
  | element tag attrs children next _ ih => simp only [append,ih]

@[simp] theorem idsAppend : (a.append b).ids = a.ids ++ b.ids := by
  induction a with
  | nil => rfl
  | text s next ih => simp only [append,ids,ih]
  | element tag attrs children next _ ih => simp only [append,ids,ih,List.append_assoc]

@[simp] theorem skeletonAppend : (a.append b).skeleton = a.skeleton.append b.skeleton := by
  induction a with
  | nil => rfl
  | text s next ih => simp only [append,skeleton,ih]
  | element tag attrs children next _ ih => simp only [append,skeleton,ih]

@[simp] theorem blankedAppend (names : List String) :
    (a.append b).blanked names = (a.blanked names).append (b.blanked names) := by
  induction a with
  | nil => rfl
  | text s next ih => simp only [append,blanked,ih]
  | element tag attrs children next _ ih =>
    simp only [append,blanked,ih]
    split <;> rfl

@[simp] theorem valuesAppend (name : String) : (a.append b).values name = a.values name ++ b.values name := by
  induction a with
  | nil => rfl
  | text s next ih => simp only [append,values,ih]
  | element tag attrs children next _ ih => simp only [append,values,ih,List.append_assoc]

theorem concatSnoc (blocks : List Nodes) : concat (blocks ++ [a]) = (concat blocks).append a := by
  induction blocks with
  | nil => exact appendNil a
  | cons head rest ih =>
    change head.append (concat (rest ++ [a])) = (head.append (concat rest)).append a
    rw [ih,appendAssoc]

theorem idsConcat (blocks : List Nodes) : (concat blocks).ids = blocks.flatMap ids := by
  induction blocks with
  | nil => rfl
  | cons head rest ih => exact (idsAppend head (concat rest)).trans (by rw [ih]; rfl)

theorem valuesConcat (name : String) (blocks : List Nodes) :
    (concat blocks).values name = blocks.flatMap (values name) := by
  induction blocks with
  | nil => rfl
  | cons head rest ih => exact (valuesAppend head (concat rest) name).trans (by rw [ih]; rfl)

theorem skeletonConcat (blocks : List Nodes) :
    (concat blocks).skeleton = concat (blocks.map skeleton) := by
  induction blocks with
  | nil => rfl
  | cons head rest ih => exact (skeletonAppend head (concat rest)).trans (by rw [ih]; rfl)

theorem blankedConcat (names : List String) (blocks : List Nodes) :
    (concat blocks).blanked names = concat (blocks.map (blanked names)) := by
  induction blocks with
  | nil => rfl
  | cons head rest ih => exact (blankedAppend head (concat rest) names).trans (by rw [ih]; rfl)

end Append

section Plain
variable (s : String)

@[simp] theorem idsPlain : (plain s).ids = [] := by unfold plain; split <;> rfl
@[simp] theorem skeletonPlain : (plain s).skeleton = .nil := by unfold plain; split <;> rfl
@[simp] theorem blankedPlain (names : List String) : (plain s).blanked names = plain s := by
  unfold plain; split <;> rfl
@[simp] theorem getPlain (id : String) : (plain s).getElementById id = none := by
  unfold plain; split <;> rfl
@[simp] theorem valuesPlain (name : String) : (plain s).values name = [] := by
  unfold plain; split <;> rfl
end Plain

section Lookup
variable {id : String} {f : Nodes → Nodes}

theorem changeRight {a : Nodes} (absent : id ∉ a.ids) (b : Nodes) :
    (a.append b).change id f = a.append (b.change id f) := by
  induction a with
  | nil => rfl
  | text s next ih => simp only [append,change,ih absent]
  | element tag attrs children next _ ih =>
    simp only [ids,List.mem_append,not_or,Option.mem_toList] at absent
    obtain ⟨⟨other,inside⟩,later⟩ := absent
    simp only [append,change,if_neg other,if_neg inside,ih later]

theorem changeLeft {a : Nodes} (present : id ∈ a.ids) (b : Nodes) :
    (a.append b).change id f = (a.change id f).append b := by
  induction a with
  | nil => simp [ids] at present
  | text s next ih => simp only [append,change,ih present]
  | element tag attrs children next _ ih =>
    by_cases here : attrs.lookup "id" = some id
    · simp only [append,change,if_pos here]
    · by_cases inside : id ∈ children.ids
      · simp only [append,change,if_neg here,if_pos inside]
      · have later : id ∈ next.ids := by simpa [ids,here,inside] using present
        simp only [append,change,if_neg here,if_neg inside,ih later]

@[simp] theorem getAppend (a b : Nodes) :
    (a.append b).getElementById id = (a.getElementById id).or (b.getElementById id) := by
  induction a with
  | nil => rfl
  | text s next ih => simp only [append,getElementById,ih]
  | element tag attrs children next _ ih =>
    by_cases here : attrs.lookup "id" = some id
    · simp only [append,getElementById,if_pos here,Option.some_or]
    · simp only [append,getElementById,if_neg here,ih,Option.or_assoc]

end Lookup
end Nodes

/-! A place in a document: the elements around it, the outermost first, each with the
siblings before and after it. -/
structure Frame where
  before : Nodes
  tag : String
  attrs : List (String × String)
  behind : Nodes

def plug : List Frame → Nodes → Nodes
  | [],inner => inner
  | f::rest,inner => f.before.append (.element f.tag f.attrs (plug rest inner) f.behind)

def outer (frames : List Frame) : List String :=
  frames.flatMap fun f => f.before.ids ++ (f.attrs.lookup "id").toList

section Places
variable {frames : List Frame} {inner : Nodes} {id : String}

theorem plugAppend (frames more : List Frame) (inner : Nodes) :
    plug (frames ++ more) inner = plug frames (plug more inner) := by
  induction frames with
  | nil => rfl
  | cons f rest ih => simp only [List.cons_append,plug,ih]

theorem mem_plug (inside : id ∈ inner.ids) : id ∈ (plug frames inner).ids := by
  induction frames with
  | nil => exact inside
  | cons f rest ih => simp [plug,Nodes.idsAppend,Nodes.ids,ih]

theorem idsPlug (frames : List Frame) :
    ∃ late, ∀ inner, (plug frames inner).ids = outer frames ++ inner.ids ++ late := by
  induction frames with
  | nil => exact ⟨[],fun inner => by simp [plug,outer]⟩
  | cons f rest ih =>
    obtain ⟨late,ids⟩ := ih
    exact ⟨late ++ f.behind.ids,fun inner => by simp [plug,outer,Nodes.ids,ids]⟩

theorem valuesPlug (frames : List Frame) (name : String) :
    ∃ early late, ∀ inner, (plug frames inner).values name = early ++ inner.values name ++ late := by
  induction frames with
  | nil => exact ⟨[],[],fun inner => by simp [plug]⟩
  | cons f rest ih =>
    obtain ⟨early,late,values⟩ := ih
    exact ⟨f.before.values name ++ (f.attrs.lookup name).toList ++ early,late ++ f.behind.values name,
      fun inner => by simp [plug,Nodes.values,values]⟩

theorem plugSameIds {other : Nodes} (same : plug frames inner = plug frames other) :
    inner.ids = other.ids := by
  obtain ⟨late,ids⟩ := idsPlug frames
  have all := congrArg Nodes.ids same
  rw [ids,ids] at all
  exact List.append_cancel_left (List.append_cancel_right all)

theorem outerCons {f : Frame} {rest : List Frame} (absent : id ∉ outer (f::rest)) :
    id ∉ f.before.ids ∧ f.attrs.lookup "id" ≠ some id ∧ id ∉ outer rest := by
  simpa [outer,not_or,and_assoc] using absent

theorem changePlug (absent : id ∉ outer frames) (inside : id ∈ inner.ids) (f : Nodes → Nodes) :
    (plug frames inner).change id f = plug frames (inner.change id f) := by
  induction frames with
  | nil => rfl
  | cons frame rest ih =>
    obtain ⟨before,own,further⟩ := outerCons absent
    have within : id ∈ (plug rest inner).ids := mem_plug inside
    simp only [plug,Nodes.changeRight before,Nodes.change,if_neg own,if_pos within,ih further]

theorem changeHolder {last : Frame} (absent : id ∉ outer frames) (before : id ∉ last.before.ids)
    (own : last.attrs.lookup "id" = some id) (f : Nodes → Nodes) :
    (plug (frames ++ [last]) inner).change id f = plug (frames ++ [last]) (f inner) := by
  have here : id ∈ (plug [last] inner).ids := by simp [plug,Nodes.idsAppend,Nodes.ids,own]
  rw [plugAppend,changePlug absent here,plugAppend]
  simp only [plug,Nodes.changeRight before,Nodes.change,if_pos own]

theorem skeletonPlug {other : Nodes} (frames : List Frame) (same : inner.skeleton = other.skeleton) :
    (plug frames inner).skeleton = (plug frames other).skeleton := by
  induction frames with
  | nil => exact same
  | cons f rest ih => simp only [plug,Nodes.skeletonAppend,Nodes.skeleton,ih]

theorem blankedPlug {other : Nodes} (frames : List Frame) {names : List String}
    (same : inner.blanked names = other.blanked names) :
    (plug frames inner).blanked names = (plug frames other).blanked names := by
  induction frames with
  | nil => exact same
  | cons f rest ih => simp only [plug,Nodes.blankedAppend,Nodes.blanked,ih]

end Places
end HelloMantids.Dom
