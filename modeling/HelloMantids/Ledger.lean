import Mathlib.Logic.Function.Basic
import Mathlib.Data.List.Induction
import Mathlib.Data.List.Nodup

/-! Entries posted and retracted under keys: the map a sequence of acts leaves, read
back from the acts themselves, and its storage as a list of values that know their
keys. -/
namespace HelloMantids.Ledger
variable {κ α : Type}

inductive Act (κ α : Type) where
  | post (key : κ) (value : α)
  | retract (key : κ)
  | idle

def posted : Act κ α → Option κ
  | .post key _ => some key
  | .retract _ => none
  | .idle => none

def keys (acts : List (Act κ α)) : List κ := acts.filterMap posted

def Standing (acts : List (Act κ α)) (key : κ) (value : α) : Prop :=
  ∃ past future, acts = past ++ .post key value::future ∧ .retract key ∉ future

theorem keysSnoc (acts : List (Act κ α)) (act : Act κ α) :
    keys (acts ++ [act]) = keys acts ++ (posted act).toList := by
  cases act <;> simp [keys,posted]

theorem standingPosted {acts : List (Act κ α)} {key value} (standing : Standing acts key value) :
    key ∈ keys acts := by
  obtain ⟨past,future,split,_⟩ := standing
  exact List.mem_filterMap.mpr ⟨.post key value,by rw [split]; simp,rfl⟩

theorem standingSnoc {acts : List (Act κ α)} {act : Act κ α} {key value} :
    Standing (acts ++ [act]) key value ↔
      act = .post key value ∨ (Standing acts key value ∧ act ≠ .retract key) := by
  constructor
  · rintro ⟨past,future,split,kept⟩
    rcases List.eq_nil_or_concat future with rfl | ⟨front,last,rfl⟩
    · exact Or.inl (by simpa using (List.append_inj' split rfl).2)
    · rw [List.concat_eq_append,← List.cons_append,← List.append_assoc] at split
      obtain ⟨before,same⟩ := List.append_inj' split rfl
      cases same
      simp only [List.concat_eq_append,List.mem_append,List.mem_singleton,not_or] at kept
      exact Or.inr ⟨⟨past,front,before,kept.1⟩,Ne.symm kept.2⟩
  · rintro (rfl | ⟨⟨past,future,split,kept⟩,other⟩)
    · exact ⟨acts,[],rfl,by simp⟩
    · refine ⟨past,future ++ [act],by rw [split]; simp,?_⟩
      simpa [kept] using Ne.symm other

variable [DecidableEq κ]

def apply (m : κ → Option α) : Act κ α → κ → Option α
  | .post key value => Function.update m key (some value)
  | .retract key => Function.update m key none
  | .idle => m

def replay (acts : List (Act κ α)) : κ → Option α := acts.foldl apply (fun _ => none)

theorem replaySnoc (acts : List (Act κ α)) (act : Act κ α) :
    replay (acts ++ [act]) = apply (replay acts) act := by
  simp [replay]

theorem replayStanding {acts : List (Act κ α)} (once : (keys acts).Nodup) (key : κ) (value : α) :
    replay acts key = some value ↔ Standing acts key value := by
  induction acts using List.reverseRecOn with
  | nil =>
    constructor
    · intro found; simp [replay] at found
    · rintro ⟨past,future,split,_⟩; simp at split
  | append_singleton acts act ih =>
    rw [keysSnoc] at once
    have earlier := ih (List.nodup_append.mp once).1
    rw [replaySnoc,standingSnoc,← earlier]
    cases act with
    | post k v =>
      have fresh : k ∉ keys acts := fun mem => (List.nodup_append.mp once).2.2 k mem k (by simp [posted]) rfl
      by_cases same : key = k
      · subst same
        have absent : ¬ replay acts key = some value := fun found => fresh (standingPosted (earlier.mp found))
        simp [apply,absent]
      · simp [apply,Function.update_of_ne same,Ne.symm same]
    | retract k =>
      by_cases same : key = k
      · subst same; simp [apply]
      · simp [apply,Function.update_of_ne same,Ne.symm same]
    | idle => simp [apply]

/-! Storage. A list of values holds a map if it has each of the map's values once. -/
structure Holds (key : α → κ) (stored : List α) (m : κ → Option α) : Prop where
  values : ∀ a, a ∈ stored ↔ m (key a) = some a
  filed : ∀ k a, m k = some a → key a = k

omit [DecidableEq κ] in
theorem holdsNone (key : α → κ) : Holds key [] (fun _ => none) where
  values := by simp
  filed := by simp

theorem holdsPost {key : α → κ} {stored : List α} {m : κ → Option α} (old : Holds key stored m)
    {a : α} (fresh : m (key a) = none) :
    Holds key (stored ++ [a]) (apply m (.post (key a) a)) where
  values b := by
    by_cases same : key b = key a
    · have absent : b ∉ stored := fun mem => by
        rw [old.values b,same,fresh] at mem; contradiction
      simp [apply,same,absent,eq_comm]
    · have other : b ≠ a := fun eq => same (by rw [eq])
      simp [apply,Function.update_of_ne same,old.values b,other]
  filed k b found := by
    by_cases same : k = key a
    · subst same
      have eq : a = b := by simpa [apply] using found
      rw [eq]
    · exact old.filed k b (by simpa [apply,Function.update_of_ne same] using found)

theorem holdsRetract {key : α → κ} {stored : List α} {m : κ → Option α} (old : Holds key stored m)
    (k : κ) : Holds key (stored.filter (fun a => key a ≠ k)) (apply m (.retract k)) where
  values b := by
    by_cases same : key b = k
    · subst same; simp [apply]
    · simp [apply,same,old.values b]
  filed n b found := by
    by_cases same : n = k
    · subst same; simp [apply] at found
    · exact old.filed n b (by simpa [apply,Function.update_of_ne same] using found)

end HelloMantids.Ledger
