import Mathlib.Data.List.Basic

/-! Programs seen through what they ask of their surroundings: a request, an answer that
the program does not choose, and so on until it is done or stopped. Surroundings have a
state of their own; a program is safe when, whatever the answers, it makes each request
only where it is allowed and ends as promised. -/
namespace HelloMantids.Scripts

inductive Script (κ : Type → Type) (ε α : Type) : Type 1 where
  | done (a : α)
  | stop (e : ε)
  | ask {ρ : Type} (op : κ ρ) (next : ρ → Script κ ε α)

variable {κ : Type → Type} {ε α β σ : Type}

def bind (f : α → Script κ ε β) : Script κ ε α → Script κ ε β
  | .done a => f a
  | .stop e => .stop e
  | .ask op next => .ask op fun r => bind f (next r)

instance : Monad (Script κ ε) where
  pure := .done
  bind m f := bind f m

def request {ρ : Type} (op : κ ρ) : Script κ ε ρ := .ask op .done

/-- What may be answered to a request, and what it changes. -/
structure Surroundings (κ : Type → Type) (σ : Type) where
  answers {ρ : Type} : σ → κ ρ → ρ → Prop
  after {ρ : Type} : σ → κ ρ → ρ → σ

structure Exchange (κ : Type → Type) : Type 1 where
  {ρ : Type}
  op : κ ρ
  answer : ρ

inductive Performs (W : Surroundings κ σ) :
    σ → Script κ ε α → List (Exchange κ) → σ → Script κ ε α → Prop where
  | here (s m) : Performs W s m [] s m
  | next {ρ s t m trace} {op : κ ρ} {next} {r : ρ} (answer : W.answers s op r)
      (later : Performs W (W.after s op r) (next r) trace t m) :
      Performs W s (.ask op next) (⟨op,r⟩::trace) t m

def Safe (W : Surroundings κ σ) (allowed : σ → ∀ {ρ : Type}, κ ρ → Prop) (s : σ) (post : α → σ → Prop)
    (fail : ε → σ → Prop) : Script κ ε α → Prop
  | .done a => post a s
  | .stop e => fail e s
  | .ask op next => allowed s op ∧ ∀ r, W.answers s op r → Safe W allowed (W.after s op r) post fail (next r)

def play (W : Surroundings κ σ) (reply : {ρ : Type} → σ → κ ρ → ρ) : σ → Script κ ε α → σ × Script κ ε α
  | s,.done a => (s,.done a)
  | s,.stop e => (s,.stop e)
  | s,.ask op next => play W reply (W.after s op (reply s op)) (next (reply s op))

theorem playPerforms {W : Surroundings κ σ} {reply : {ρ : Type} → σ → κ ρ → ρ}
    (may : ∀ s {ρ : Type} (op : κ ρ), W.answers s op (reply s op)) (s : σ) (m : Script κ ε α) :
    ∃ trace, Performs W s m trace (play W reply s m).1 (play W reply s m).2 := by
  induction m generalizing s with
  | done a => exact ⟨[],.here s _⟩
  | stop e => exact ⟨[],.here s _⟩
  | ask op next ih =>
    obtain ⟨trace,later⟩ := ih (reply s op) (W.after s op (reply s op))
    exact ⟨_,.next (may s op) later⟩

section Rules
variable {W : Surroundings κ σ} {allowed : σ → ∀ {ρ : Type}, κ ρ → Prop} {s : σ} {post : α → σ → Prop}
  {fail : ε → σ → Prop}

@[simp] theorem safeDone {a : α} : Safe W allowed s post fail (pure a : Script κ ε α) ↔ post a s := Iff.rfl

@[simp] theorem safeStop {e : ε} : Safe W allowed s post fail (.stop e : Script κ ε α) ↔ fail e s := Iff.rfl

@[simp] theorem safeLast {op : κ α} : Safe W allowed s post fail (request op) ↔
    allowed s op ∧ ∀ r, W.answers s op r → post r (W.after s op r) := Iff.rfl

@[simp] theorem safeRequest {ρ : Type} {op : κ ρ} {f : ρ → Script κ ε α} :
    Safe W allowed s post fail (request op >>= f) ↔
      allowed s op ∧ ∀ r, W.answers s op r → Safe W allowed (W.after s op r) post fail (f r) := Iff.rfl

theorem safeWeaken {post' : α → σ → Prop} {fail' : ε → σ → Prop} {m : Script κ ε α}
    (safe : Safe W allowed s post fail m) (more : ∀ a t, post a t → post' a t)
    (worse : ∀ e t, fail e t → fail' e t) : Safe W allowed s post' fail' m := by
  induction m generalizing s with
  | done a => exact more a s safe
  | stop e => exact worse e s safe
  | ask op next ih => exact ⟨safe.1,fun r may => ih r (safe.2 r may)⟩

theorem safeBind {mid : β → σ → Prop} {m : Script κ ε β} {f : β → Script κ ε α}
    (first : Safe W allowed s mid fail m) (then_ : ∀ b t, mid b t → Safe W allowed t post fail (f b)) :
    Safe W allowed s post fail (m >>= f) := by
  induction m generalizing s with
  | done b => exact then_ b s first
  | stop e => exact first
  | ask op next ih => exact ⟨first.1,fun r may => ih r (first.2 r may)⟩

/- Along a run of a safe program every request was allowed where it was made. -/
theorem safeAlong {m n : Script κ ε α} {trace : List (Exchange κ)} {t : σ}
    (safe : Safe W allowed s post fail m) (run : Performs W s m trace t n) :
    Safe W allowed t post fail n ∧ ∀ early x late, trace = early ++ x::late →
      ∃ u rest, Performs W s m early u rest ∧ allowed u x.op := by
  induction run with
  | here s m => exact ⟨safe,fun early x late split => by simp at split⟩
  | @next ρ s t m trace op next r answer later ih =>
    obtain ⟨end_,each⟩ := ih (safe.2 r answer)
    refine ⟨end_,fun early x late split => ?_⟩
    cases early with
    | nil =>
      obtain ⟨rfl,_⟩ := List.cons.inj split
      exact ⟨_,_,.here _ _,safe.1⟩
    | cons first rest =>
      obtain ⟨rfl,tail⟩ := List.cons.inj split
      obtain ⟨u,left,path,here⟩ := each rest x late tail
      exact ⟨u,left,.next answer path,here⟩

theorem safeInvariant {I : σ → Prop}
    (keep : ∀ s {ρ : Type} (op : κ ρ) r, allowed s op → W.answers s op r → I s → I (W.after s op r))
    {m n : Script κ ε α} {trace : List (Exchange κ)} {t : σ} (safe : Safe W allowed s post fail m)
    (start : I s) (run : Performs W s m trace t n) : I t := by
  induction run with
  | here => exact start
  | next answer later ih => exact ih (safe.2 _ answer) (keep _ _ _ safe.1 answer start)

end Rules
end HelloMantids.Scripts
