import Mathlib.Data.List.Basic

/-! Runs of a machine that answers every event it takes. A history keeps the whole
run: each event with its answer and the states around it. Five rules carry facts about
one step over a run: invariants, preorders, simulation, projection and erasure of hidden
events. -/
namespace HelloMantids.Transition

variable {σ ε ω : Type}

structure Served (σ ε ω : Type) where
  before : σ
  event : ε
  answer : ω
  after : σ

variable (step : σ → ε → σ × ω)

def served (s : σ) (e : ε) : Served σ ε ω := ⟨s,e,(step s e).2,(step s e).1⟩

def final : σ → List ε → σ
  | s,[] => s
  | s,e::rest => final (step s e).1 rest

def history : σ → List ε → List (Served σ ε ω)
  | _,[] => []
  | s,e::rest => served step s e :: history (step s e).1 rest

theorem finalAppend (s : σ) (xs ys : List ε) :
    final step s (xs ++ ys) = final step (final step s xs) ys := by
  induction xs generalizing s with
  | nil => rfl
  | cons e rest ih => exact ih (step s e).1

theorem finalSnoc (s : σ) (events : List ε) (e : ε) :
    final step s (events ++ [e]) = (step (final step s events) e).1 := finalAppend step s events [e]

theorem historyAppend (s : σ) (xs ys : List ε) :
    history step s (xs ++ ys) = history step s xs ++ history step (final step s xs) ys := by
  induction xs generalizing s with
  | nil => rfl
  | cons e rest ih => simp only [List.cons_append,history,final,ih]

theorem historySplit {s : σ} {events : List ε} {pre post : List (Served σ ε ω)} {x : Served σ ε ω}
    (split : history step s events = pre ++ x :: post) :
    ∃ past future, events = past ++ x.event :: future ∧ pre = history step s past ∧
      x = served step (final step s past) x.event ∧ post = history step x.after future := by
  induction events generalizing s pre with
  | nil => simp [history] at split
  | cons e rest ih =>
    cases pre with
    | nil =>
      simp only [history,List.nil_append,List.cons.injEq] at split
      obtain ⟨here,later⟩ := split
      subst here
      exact ⟨[],rest,rfl,rfl,rfl,later.symm⟩
    | cons head tail =>
      simp only [history,List.cons_append,List.cons.injEq] at split
      obtain ⟨here,later⟩ := split
      obtain ⟨past,future,he,hp,hx,hf⟩ := ih later
      refine ⟨e::past,future,by rw [he]; rfl,?_,hx,hf⟩
      simp only [history,here,hp]

theorem invariantFinal {I : σ → Prop} (keep : ∀ s e, I s → I (step s e).1)
    {s : σ} (start : I s) (events : List ε) : I (final step s events) := by
  induction events generalizing s with
  | nil => exact start
  | cons e rest ih => exact ih (keep s e start)

theorem relatedFinal (Rel : σ → σ → Prop) (same : ∀ s, Rel s s)
    (join : ∀ {s m t}, Rel s m → Rel m t → Rel s t) (each : ∀ s e, Rel s (step s e).1) (s : σ)
    (events : List ε) : Rel s (final step s events) := by
  induction events generalizing s with
  | nil => exact same s
  | cons e rest ih => exact join (each s e) (ih (step s e).1)

theorem turningStep {P : σ → Prop} {s : σ} {events : List ε} (before : ¬ P s)
    (after : P (final step s events)) :
    ∃ pre e post, events = pre ++ e::post ∧ ¬ P (final step s pre) ∧ P (step (final step s pre) e).1 := by
  induction events generalizing s with
  | nil => exact absurd after before
  | cons e rest ih =>
    by_cases here : P (step s e).1
    · exact ⟨[],e,rest,rfl,before,here⟩
    · obtain ⟨pre,turn,post,split,off,on⟩ := ih here after
      exact ⟨e::pre,turn,post,by rw [split]; rfl,off,on⟩

/-! Simulation: an abstract state that follows the served events stays related. -/
theorem simulationFinal {α : Type} (R : σ → α → Prop) (follow : α → Served σ ε ω → α)
    (simulate : ∀ s a e, R s a → R (step s e).1 (follow a (served step s e)))
    {s : σ} {a : α} (start : R s a) (events : List ε) :
    R (final step s events) ((history step s events).foldl follow a) := by
  induction events generalizing s a with
  | nil => exact start
  | cons e rest ih => exact ih (simulate s a e start)

/-! Projection: a view that moves as an inner machine does on some of the events makes
that machine's run on these. -/
section Projection
variable {τ κ ψ : Type}

def moved (inner : τ → κ → τ × ψ) (x : τ) : Option κ → τ
  | some k => (inner x k).1
  | none => x

variable {step}

theorem projectedFinal {inner : τ → κ → τ × ψ} {view : σ → τ} {project : ε → Option κ}
    (follows : ∀ s e, view (step s e).1 = moved inner (view s) (project e)) (s : σ) (events : List ε) :
    view (final step s events) = final inner (view s) (events.filterMap project) := by
  induction events generalizing s with
  | nil => rfl
  | cons e rest ih =>
    have here := follows s e
    rw [final,ih,here,List.filterMap_cons]
    cases project e <;> rfl

end Projection

/-! Erasure. A hidden event leaves the view as it is; a visible one depends on the
view only. Then the run without its hidden events ends in the same view and makes
the same observations. -/
section Erasure
variable {ν β : Type} (view : σ → ν) (hidden : ε → Bool)

def visible (events : List ε) : List ε := events.filter (fun e => !hidden e)

structure Unwound : Prop where
  silent : ∀ s e, hidden e = true → view (step s e).1 = view s
  same : ∀ s t e, hidden e = false → view s = view t → view (step s e).1 = view (step t e).1

variable {step view hidden}

theorem erasedFinal (unwound : Unwound step view hidden) {s t : σ} (start : view s = view t)
    (events : List ε) :
    view (final step s events) = view (final step t (visible hidden events)) := by
  induction events generalizing s t with
  | nil => exact start
  | cons e rest ih =>
    cases h : hidden e with
    | true =>
      simp only [visible,List.filter_cons,h,Bool.not_true,Bool.false_eq_true,if_false]
      exact ih ((unwound.silent s e h).trans start)
    | false =>
      simp only [visible,List.filter_cons,h,Bool.not_false,if_true]
      exact ih (unwound.same s t e h start)

theorem erasedObservations (unwound : Unwound step view hidden)
    (observe : Served σ ε ω → Option β)
    (quiet : ∀ s e, hidden e = true → observe (served step s e) = none)
    (agree : ∀ s t e, hidden e = false → view s = view t →
      observe (served step s e) = observe (served step t e))
    {s t : σ} (start : view s = view t) (events : List ε) :
    (history step s events).filterMap observe =
      (history step t (visible hidden events)).filterMap observe := by
  induction events generalizing s t with
  | nil => rfl
  | cons e rest ih =>
    cases h : hidden e with
    | true =>
      have next := ih ((unwound.silent s e h).trans start)
      simpa only [visible,List.filter_cons,h,Bool.not_true,Bool.false_eq_true,if_false,history,
        List.filterMap_cons,quiet s e h] using next
    | false =>
      have next := ih (unwound.same s t e h start)
      have here := agree s t e h start
      simp only [visible,List.filter_cons,h,Bool.not_false,if_true,history,List.filterMap_cons,here]
      rw [← visible,next]

end Erasure
end HelloMantids.Transition
