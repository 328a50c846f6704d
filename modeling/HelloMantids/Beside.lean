import HelloMantids.SharedLock
import HelloMantids.Transition

/-! A lock-protected value beside another one that needs no lock. Some events of a
sequential machine run as bodies under the lock, step by step; the rest neither read nor
write the protected value and happen at once, also while bodies are inside. Whatever the
interleaving, the machine run in the order of the grants and of those events comes to
the same end with the same answers. -/
namespace HelloMantids.SharedLock
open Transition

inductive Move (ι ε : Type) where
  | act (i : ι) (a : Action)
  | event (e : ε)

structure Both (ι σ ℓ ω β : Type) where
  lock : State ι σ ℓ ω
  rest : β

variable {ι σ ρ ℓ ω β ε ψ : Type} [DecidableEq ι]

/-- An event that takes the lock does what its body computes and leaves the rest alone;
any other leaves the protected value alone and does the same whatever that value is. -/
structure Divides (step : σ × β → ε → (σ × β) × ψ) (locked? : ε → Option ρ) (serve : ρ → σ → ω × σ)
    (answers : ψ → ω → Prop) : Prop where
  locked {e r} (x y) : locked? e = some r →
    (step (x,y) e).1 = ((serve r x).2,y) ∧ answers (step (x,y) e).2 (serve r x).1
  free {e} (x z y) : locked? e = none →
    (step (x,y) e).1 = (x,(step (z,y) e).1.2) ∧ (step (x,y) e).2 = (step (z,y) e).2

inductive Moves (P : Program σ ρ ℓ ω) (req : ι → ρ) (step : σ × β → ε → (σ × β) × ψ)
    (locked? : ε → Option ρ) : Both ι σ ℓ ω β → Move ι ε → Both ι σ ℓ ω β → Prop where
  | act {s i a lock} (moved : Step P req s.lock (i,a) lock) :
      Moves P req step locked? s (.act i a) ⟨lock,s.rest⟩
  | event {s e} (free : locked? e = none) :
      Moves P req step locked? s (.event e)
        ⟨{s.lock with shared := (step (s.lock.shared,s.rest) e).1.1},(step (s.lock.shared,s.rest) e).1.2⟩

inductive Running (P : Program σ ρ ℓ ω) (req : ι → ρ) (step : σ × β → ε → (σ × β) × ψ)
    (locked? : ε → Option ρ) : Both ι σ ℓ ω β → List (Move ι ε) → Both ι σ ℓ ω β → Prop where
  | nil (s) : Running P req step locked? s [] s
  | cons {s e m rest t} (first : Moves P req step locked? s e m)
      (later : Running P req step locked? m rest t) : Running P req step locked? s (e::rest) t

def lockPart? : Move ι ε → Option (ι × Action)
  | .act i a => some (i,a)
  | .event _ => none

def lockPart (trace : List (Move ι ε)) : List (ι × Action) := trace.filterMap lockPart?

def serial? (ask : ι → ε) : Move ι ε → Option ε
  | .act i .acquire => some (ask i)
  | .act _ .advance => none
  | .act _ .release => none
  | .event e => some e

def serial (ask : ι → ε) (trace : List (Move ι ε)) : List ε := trace.filterMap (serial? ask)

section Traces
variable {P : Program σ ρ ℓ ω} {req : ι → ρ} {step : σ × β → ε → (σ × β) × ψ}
  {locked? : ε → Option ρ} {serve : ρ → σ → ω × σ} {answers : ψ → ω → Prop} {ask : ι → ε}
  {s t : Both ι σ ℓ ω β} {trace : List (Move ι ε)}

theorem lockExecution (law : Divides step locked? serve answers)
    (path : Running P req step locked? s trace t) : Execution P req s.lock (lockPart trace) t.lock := by
  induction path with
  | nil => exact .nil _
  | @cons s e m rest t first later ih =>
    cases first with
    | act moved => exact .cons moved ih
    | event free =>
      have same := congrArg Prod.fst (law.free s.lock.shared s.lock.shared s.rest free).1
      simp only [same] at ih
      exact ih

theorem runningSplit {xs ys : List (Move ι ε)} (path : Running P req step locked? s (xs ++ ys) t) :
    ∃ m, Running P req step locked? s xs m ∧ Running P req step locked? m ys t := by
  induction xs generalizing s with
  | nil => exact ⟨s,.nil s,path⟩
  | cons e rest ih =>
    cases path with
    | cons first later =>
      obtain ⟨m,left,right⟩ := ih later
      exact ⟨m,.cons first left,right⟩

theorem serialValue (law : Divides step locked? serve answers) (asks : ∀ i, locked? (ask i) = some (req i))
    (path : Running P req step locked? s trace t) (x : σ) :
    final step (x,s.rest) (serial ask trace) = (after serve req x (grants (lockPart trace)),t.rest) := by
  induction path generalizing x with
  | nil => rfl
  | @cons s e m rest t first later ih =>
    cases first with
    | @act i a lock moved =>
      cases a with
      | acquire =>
        have here := (law.locked x s.rest (asks i)).1
        change final step (step (x,s.rest) (ask i)).1 _ = _
        rw [here]
        exact ih (serve (req i) x).2
      | advance => exact ih x
      | release => exact ih x
    | @event e free =>
      change final step (step (x,s.rest) e).1 _ = _
      rw [(law.free x s.lock.shared s.rest free).1]
      exact ih x

theorem serialAnswer (law : Divides step locked? serve answers) (serves : Serves P serve)
    (asks : ∀ i, locked? (ask i) = some (req i)) {x : σ} {y : β}
    (path : Running P req step locked? ⟨initial x,y⟩ trace t) {i : ι} {a : ω}
    (ended : t.lock.phase i = .returned a) :
    ∃ early late, trace = early ++ .act i .acquire::late ∧
      answers (step (final step (x,y) (serial ask early)) (ask i)).2 a := by
  have inv : Inv P serve req x (lockPart trace) t.lock := invPath serves invInitial (lockExecution law path)
  obtain ⟨pre,post,split,value⟩ := inv.answers i a ended
  have mem : Move.act i .acquire ∈ trace := by
    have granted : (i,Action.acquire) ∈ lockPart trace := acquiredMem (by rw [split]; simp)
    obtain ⟨move,inside,act⟩ := List.mem_filterMap.mp granted
    cases move with
    | act j b => cases act; exact inside
    | event e => contradiction
  obtain ⟨early,late,cut⟩ := List.append_of_mem mem
  refine ⟨early,late,cut,?_⟩
  have order : grants (lockPart trace) = grants (lockPart early) ++ i::grants (lockPart late) := by
    rw [cut]
    simp [lockPart,lockPart?,grants,acquired]
  have once := inv.nodup
  rw [order,List.nodup_middle,List.nodup_cons,List.mem_append,not_or] at once
  rw [order,List.append_cons_inj_of_notMem once.1.1 once.1.2] at split
  rw [cut] at path
  obtain ⟨m,first,_⟩ := runningSplit path
  rw [serialValue law asks first x,value,← split.1]
  exact (law.locked _ m.rest (asks i)).2

end Traces

structure SerialTrace (P : Program σ ρ ℓ ω) (req : ι → ρ) (step : σ × β → ε → (σ × β) × ψ)
    (locked? : ε → Option ρ) (answers : ψ → ω → Prop) (ask : ι → ε) (x : σ) (y : β)
    (trace : List (Move ι ε)) (t : Both ι σ ℓ ω β) : Prop where
  value : final step (x,y) (serial ask trace) = (t.lock.shared,t.rest)
  threads : ∀ i a, t.lock.phase i = .returned a → ∃ early late, trace = early ++ .act i .acquire::late ∧
    answers (step (final step (x,y) (serial ask early)) (ask i)).2 a
  events : ∀ early e late m, trace = early ++ .event e::late →
    Running P req step locked? ⟨initial x,y⟩ early m →
    (step (m.lock.shared,m.rest) e).2 = (step (final step (x,y) (serial ask early)) e).2

theorem serialTrace {P : Program σ ρ ℓ ω} {req : ι → ρ} {step : σ × β → ε → (σ × β) × ψ}
    {locked? : ε → Option ρ} {serve : ρ → σ → ω × σ} {answers : ψ → ω → Prop} {ask : ι → ε}
    (law : Divides step locked? serve answers) (serves : Serves P serve)
    (asks : ∀ i, locked? (ask i) = some (req i)) {x : σ} {y : β} {trace : List (Move ι ε)}
    {t : Both ι σ ℓ ω β} (path : Running P req step locked? ⟨initial x,y⟩ trace t)
    (finished : ∀ i, ∃ a, t.lock.phase i = .returned a) :
    SerialTrace P req step locked? answers ask x y trace t where
  value := by
    rw [(serializable serves (lockExecution law path) finished).value]
    exact serialValue law asks path x
  threads i a ended := serialAnswer law serves asks path ended
  events := by
    intro early e late m split first
    rw [split] at path
    obtain ⟨n,left,right⟩ := runningSplit path
    cases right with
    | cons now later =>
      cases now with
      | event free =>
        have serial := serialValue law asks first x
        rw [serial]
        exact (law.free _ _ m.rest free).2
end HelloMantids.SharedLock
