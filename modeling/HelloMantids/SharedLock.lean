import Mathlib.Logic.Function.Basic
import Mathlib.Data.List.Basic
import Mathlib.Data.List.Induction
import Mathlib.Data.List.Nodup

/-! Programs whose bodies run step by step under one reader-writer lock. The lock is
its specification: a reader enters beside readers only, a writer enters alone, and
both leave at the end of their body. Any number of threads, any interleaving. -/
namespace HelloMantids.SharedLock

inductive Mode where
  | read
  | write
  deriving DecidableEq, Repr

structure Program (σ ρ ℓ ω : Type) where
  mode : ρ → Mode
  enter : ρ → ℓ
  advance : ρ → ℓ → σ → ℓ × σ
  finished : ℓ → Option ω

inductive Phase (ℓ ω : Type) where
  | waiting
  | holding (body : ℓ)
  | returned (answer : ω)

structure State (ι σ ℓ ω : Type) where
  shared : σ
  phase : ι → Phase ℓ ω

inductive Action where
  | acquire
  | advance
  | release
  deriving DecidableEq, Repr

variable {ι σ ρ ℓ ω : Type} [DecidableEq ι]

def initial (x : σ) : State ι σ ℓ ω := ⟨x,fun _ => .waiting⟩

def State.become (s : State ι σ ℓ ω) (i : ι) (p : Phase ℓ ω) : State ι σ ℓ ω :=
  {s with phase := Function.update s.phase i p}

def Granted (P : Program σ ρ ℓ ω) (req : ι → ρ) (s : State ι σ ℓ ω) (i : ι) : Prop :=
  ∀ j l, s.phase j = .holding l → P.mode (req i) = .read ∧ P.mode (req j) = .read

inductive Step (P : Program σ ρ ℓ ω) (req : ι → ρ) :
    State ι σ ℓ ω → ι × Action → State ι σ ℓ ω → Prop where
  | acquire {s i} (idle : s.phase i = .waiting) (granted : Granted P req s i) :
      Step P req s (i,.acquire) (s.become i (.holding (P.enter (req i))))
  | advance {s i l} (inside : s.phase i = .holding l) (more : P.finished l = none) :
      Step P req s (i,.advance)
        {s.become i (.holding (P.advance (req i) l s.shared).1) with
          shared := (P.advance (req i) l s.shared).2}
  | release {s i l a} (inside : s.phase i = .holding l) (ended : P.finished l = some a) :
      Step P req s (i,.release) (s.become i (.returned a))

inductive Execution (P : Program σ ρ ℓ ω) (req : ι → ρ) :
    State ι σ ℓ ω → List (ι × Action) → State ι σ ℓ ω → Prop where
  | nil (s) : Execution P req s [] s
  | cons {s e m rest t} (first : Step P req s e m) (later : Execution P req m rest t) :
      Execution P req s (e::rest) t

def acquired : ι × Action → Option ι
  | (i,.acquire) => some i
  | _ => none

def grants (trace : List (ι × Action)) : List ι := trace.filterMap acquired

inductive Reaches (P : Program σ ρ ℓ ω) (r : ρ) : ℓ × σ → ℓ × σ → Prop where
  | start (c) : Reaches P r c c
  | next {c l x} (before : Reaches P r c (l,x)) (more : P.finished l = none) :
      Reaches P r c (P.advance r l x)

/-- `serve` is what a body computes alone; read-mode bodies leave the value alone. -/
structure Serves (P : Program σ ρ ℓ ω) (serve : ρ → σ → ω × σ) : Prop where
  computes {r x l y a} : Reaches P r (P.enter r,x) (l,y) → P.finished l = some a → serve r x = (a,y)
  readOnly {r} (l x) : P.mode r = .read → (P.advance r l x).2 = x
  keeps {r} (x) : P.mode r = .read → (serve r x).2 = x

def after (serve : ρ → σ → ω × σ) (req : ι → ρ) (x : σ) (order : List ι) : σ :=
  order.foldl (fun y i => (serve (req i) y).2) x

def AnsweredAt (serve : ρ → σ → ω × σ) (req : ι → ρ) (x : σ) (order : List ι) (i : ι) (a : ω) : Prop :=
  ∃ pre post, order = pre ++ i::post ∧ a = (serve (req i) (after serve req x pre)).1

section Order
omit [DecidableEq ι]
variable (serve : ρ → σ → ω × σ) (req : ι → ρ) (x : σ)

theorem afterSnoc (order : List ι) (i : ι) :
    after serve req x (order ++ [i]) = (serve (req i) (after serve req x order)).2 := by
  simp [after]

theorem answeredSnoc {order : List ι} {j : ι} {a : ω} (i : ι)
    (old : AnsweredAt serve req x order j a) : AnsweredAt serve req x (order ++ [i]) j a := by
  obtain ⟨pre,post,split,value⟩ := old
  exact ⟨pre,post ++ [i],by rw [split]; simp,value⟩

theorem grantsAppend (xs ys : List (ι × Action)) : grants (xs ++ ys) = grants xs ++ grants ys := by
  simp [grants]

theorem acquiredMem {trace : List (ι × Action)} {i : ι} (granted : i ∈ grants trace) :
    (i,.acquire) ∈ trace := by
  obtain ⟨⟨j,a⟩,mem,taken⟩ := List.mem_filterMap.mp granted
  cases a with
  | acquire => cases taken; exact mem
  | advance => contradiction
  | release => contradiction

theorem grantsAcquire (xs : List (ι × Action)) (i : ι) : grants (xs ++ [(i,.acquire)]) = grants xs ++ [i] := by
  simp [grants,acquired]

theorem grantsAdvance (xs : List (ι × Action)) (i : ι) : grants (xs ++ [(i,.advance)]) = grants xs := by
  simp [grants,acquired]

theorem grantsRelease (xs : List (ι × Action)) (i : ι) : grants (xs ++ [(i,.release)]) = grants xs := by
  simp [grants,acquired]
end Order

section Phases
variable (s : State ι σ ℓ ω) (i : ι) (p : Phase ℓ ω)

@[simp] theorem becomeShared : (s.become i p).shared = s.shared := rfl
@[simp] theorem becomeSame : (s.become i p).phase i = p := by
  simp only [State.become,Function.update_self]
theorem becomeOther {j : ι} (other : j ≠ i) : (s.become i p).phase j = s.phase j := by
  simp only [State.become,Function.update_of_ne other]

variable {s i p} in
theorem becomeCases {j : ι} {q : Phase ℓ ω} (h : (s.become i p).phase j = q) :
    (j = i ∧ p = q) ∨ (j ≠ i ∧ s.phase j = q) := by
  by_cases same : j = i
  · subst same
    exact Or.inl ⟨rfl,(becomeSame s j p).symm.trans h⟩
  · exact Or.inr ⟨same,(becomeOther s i p same).symm.trans h⟩
end Phases

theorem pathSplit {P : Program σ ρ ℓ ω} {req : ι → ρ} {s t : State ι σ ℓ ω}
    {xs ys : List (ι × Action)} (path : Execution P req s (xs ++ ys) t) :
    ∃ m, Execution P req s xs m ∧ Execution P req m ys t := by
  induction xs generalizing s with
  | nil => exact ⟨s,.nil s,path⟩
  | cons e rest ih =>
    cases path with
    | cons first later =>
      obtain ⟨m,left,right⟩ := ih later
      exact ⟨m,.cons first left,right⟩

theorem pathJoin {P : Program σ ρ ℓ ω} {req : ι → ρ} {s m t : State ι σ ℓ ω}
    {xs ys : List (ι × Action)} (left : Execution P req s xs m) (right : Execution P req m ys t) :
    Execution P req s (xs ++ ys) t := by
  induction left with
  | nil => exact right
  | cons first later ih => exact .cons first (ih right)

/-! What holds after any trace from the initial state: the grants so far are a serial
order whose answers have been given, and the shared value is that order's value
unless a writer is inside, who then is the last granted and works on it alone. -/
structure Inv (P : Program σ ρ ℓ ω) (serve : ρ → σ → ω × σ) (req : ι → ρ) (x : σ)
    (trace : List (ι × Action)) (s : State ι σ ℓ ω) : Prop where
  started : ∀ i, i ∈ grants trace ↔ s.phase i ≠ .waiting
  nodup : (grants trace).Nodup
  answers : ∀ i a, s.phase i = .returned a → AnsweredAt serve req x (grants trace) i a
  apart : ∀ i j l k, s.phase i = .holding l → s.phase j = .holding k → i ≠ j →
    P.mode (req i) = .read
  reader : ∀ i l, s.phase i = .holding l → P.mode (req i) = .read →
    Reaches P (req i) (P.enter (req i),s.shared) (l,s.shared) ∧
    ∃ pre post, grants trace = pre ++ i::post ∧ after serve req x pre = s.shared
  writer : ∀ i l, s.phase i = .holding l → P.mode (req i) = .write →
    ∃ pre, grants trace = pre ++ [i] ∧
      Reaches P (req i) (P.enter (req i),after serve req x pre) (l,s.shared)
  settled : (∀ i l, s.phase i = .holding l → P.mode (req i) = .read) →
    s.shared = after serve req x (grants trace)

theorem modeCases (m : Mode) : m = .read ∨ m = .write := by cases m <;> simp

section Preservation
variable {P : Program σ ρ ℓ ω} {serve : ρ → σ → ω × σ} {req : ι → ρ} {x : σ}
  {trace : List (ι × Action)} {s : State ι σ ℓ ω} {i : ι} {l : ℓ} {a : ω}

omit [DecidableEq ι] in
theorem invInitial : Inv P serve req x [] (initial x : State ι σ ℓ ω) where
  started i := by simp [grants,initial]
  nodup := by simp [grants]
  answers i a h := by simp [initial] at h
  apart i j l k h := by simp [initial] at h
  reader i l h := by simp [initial] at h
  writer i l h := by simp [initial] at h
  settled _ := rfl

/- A grant extends the order by a request that no thread inside can disturb: all are
readers beside it, or nobody is inside. -/
theorem invAcquire (law : Serves P serve) (inv : Inv P serve req x trace s)
    (idle : s.phase i = .waiting) (granted : Granted P req s i) :
    Inv P serve req x (trace ++ [(i,.acquire)]) (s.become i (.holding (P.enter (req i)))) := by
  have fresh : i ∉ grants trace := fun mem => (inv.started i).mp mem idle
  have quiet : s.shared = after serve req x (grants trace) :=
    inv.settled fun j k h => (granted j k h).2
  constructor
  case started =>
    intro j
    by_cases same : j = i
    · subst same; simp [grantsAcquire]
    · rw [becomeOther s i _ same,grantsAcquire]
      simp [same,inv.started j]
  case nodup =>
    rw [grantsAcquire]
    exact List.nodup_append.mpr ⟨inv.nodup,by simp,by simpa using fun j mem => ne_of_mem_of_not_mem mem fresh⟩
  case answers =>
    intro j b h
    rcases becomeCases h with ⟨_,now⟩ | ⟨_,before⟩
    · contradiction
    · rw [grantsAcquire]
      exact answeredSnoc serve req x i (inv.answers j b before)
  case apart =>
    intro j k m n hj hk different
    rcases becomeCases hj with ⟨rfl,_⟩ | ⟨_,inside⟩
    · rcases becomeCases hk with ⟨rfl,_⟩ | ⟨_,other⟩
      · exact absurd rfl different
      · exact (granted k n other).1
    · exact (granted j m inside).2
  case reader =>
    intro j m h mode
    rw [grantsAcquire,becomeShared]
    rcases becomeCases h with ⟨rfl,now⟩ | ⟨_,before⟩
    · cases now
      exact ⟨.start _,grants trace,[],rfl,quiet.symm⟩
    · obtain ⟨body,pre,post,split,value⟩ := inv.reader j m before mode
      exact ⟨body,pre,post ++ [i],by rw [split]; simp,value⟩
  case writer =>
    intro j m h mode
    rcases becomeCases h with ⟨rfl,now⟩ | ⟨_,before⟩
    · cases now
      exact ⟨grants trace,grantsAcquire trace j,by rw [becomeShared,quiet]; exact .start _⟩
    · have read := (granted j m before).2
      rw [mode] at read
      contradiction
  case settled =>
    intro readers
    have mode := readers i _ (becomeSame s i _)
    rw [grantsAcquire,afterSnoc,law.keeps _ mode,becomeShared,quiet]

-- The shared value moves only under a writer, and then no other thread is inside.
omit [DecidableEq ι] in
theorem besideAdvance (law : Serves P serve) (inv : Inv P serve req x trace s) {j : ι} {k : ℓ}
    (inside : s.phase i = .holding l) (other : j ≠ i) (beside : s.phase j = .holding k) :
    (P.advance (req i) l s.shared).2 = s.shared :=
  law.readOnly l s.shared (inv.apart i j l k inside beside (Ne.symm other))

theorem invAdvance (law : Serves P serve) (inv : Inv P serve req x trace s)
    (inside : s.phase i = .holding l) (more : P.finished l = none) :
    Inv P serve req x (trace ++ [(i,.advance)])
      {s.become i (.holding (P.advance (req i) l s.shared).1) with
        shared := (P.advance (req i) l s.shared).2} := by
  constructor
  case started =>
    intro j
    rw [grantsAdvance]
    by_cases same : j = i
    · subst same; simp [inv.started j,inside]
    · simpa only [becomeOther s i _ same] using inv.started j
  case nodup => rw [grantsAdvance]; exact inv.nodup
  case answers =>
    intro j b h
    rw [grantsAdvance]
    rcases becomeCases h with ⟨_,now⟩ | ⟨_,before⟩
    · contradiction
    · exact inv.answers j b before
  case apart =>
    intro j k m n hj hk different
    rcases becomeCases hj with ⟨rfl,_⟩ | ⟨_,first⟩ <;> rcases becomeCases hk with ⟨rfl,_⟩ | ⟨_,second⟩
    · exact absurd rfl different
    · exact inv.apart j k l n inside second different
    · exact inv.apart j k m l first inside different
    · exact inv.apart j k m n first second different
  case reader =>
    intro j m h mode
    rw [grantsAdvance]
    rcases becomeCases h with ⟨rfl,now⟩ | ⟨other,before⟩
    · cases now
      obtain ⟨body,rest⟩ := inv.reader j l inside mode
      have still := law.readOnly l s.shared mode
      have moved : P.advance (req j) l s.shared = ((P.advance (req j) l s.shared).1,s.shared) :=
        Prod.ext rfl still
      have next := Reaches.next body more
      rw [moved] at next
      simp only [still]
      exact ⟨next,rest⟩
    · have still := besideAdvance law inv inside other before
      simpa only [still] using inv.reader j m before mode
  case writer =>
    intro j m h mode
    rw [grantsAdvance]
    rcases becomeCases h with ⟨rfl,now⟩ | ⟨other,before⟩
    · cases now
      obtain ⟨pre,split,body⟩ := inv.writer j l inside mode
      exact ⟨pre,split,.next body more⟩
    · have still := besideAdvance law inv inside other before
      simpa only [still] using inv.writer j m before mode
  case settled =>
    intro readers
    have mode := readers i _ (becomeSame s i _)
    rw [grantsAdvance]
    simp only [law.readOnly l s.shared mode]
    refine inv.settled fun j k h => ?_
    by_cases same : j = i
    · subst same; exact mode
    · exact readers j k ((becomeOther s i _ same).trans h)

theorem invRelease (law : Serves P serve) (inv : Inv P serve req x trace s)
    (inside : s.phase i = .holding l) (ended : P.finished l = some a) :
    Inv P serve req x (trace ++ [(i,.release)]) (s.become i (.returned a)) := by
  have old {j : ι} {k : ℓ} (h : (s.become i (.returned a)).phase j = .holding k) :
      s.phase j = .holding k := by
    rcases becomeCases h with ⟨_,now⟩ | ⟨_,before⟩
    · contradiction
    · exact before
  constructor
  case started =>
    intro j
    rw [grantsRelease]
    by_cases same : j = i
    · subst same; simp [inv.started j,inside]
    · simpa only [becomeOther s i _ same] using inv.started j
  case nodup => rw [grantsRelease]; exact inv.nodup
  case answers =>
    intro j b h
    rw [grantsRelease]
    rcases becomeCases h with ⟨rfl,now⟩ | ⟨_,before⟩
    · cases now
      rcases modeCases (P.mode (req j)) with mode | mode
      · obtain ⟨body,pre,post,split,value⟩ := inv.reader j l inside mode
        exact ⟨pre,post,split,by rw [value,law.computes body ended]⟩
      · obtain ⟨pre,split,body⟩ := inv.writer j l inside mode
        exact ⟨pre,[],split,by rw [law.computes body ended]⟩
    · exact inv.answers j b before
  case apart =>
    intro j k m n hj hk different
    exact inv.apart j k m n (old hj) (old hk) different
  case reader =>
    intro j m h mode
    rw [grantsRelease]; exact inv.reader j m (old h) mode
  case writer =>
    intro j m h mode
    rw [grantsRelease]; exact inv.writer j m (old h) mode
  case settled =>
    intro readers
    rw [grantsRelease,becomeShared]
    rcases modeCases (P.mode (req i)) with mode | mode
    · refine inv.settled fun j k h => ?_
      by_cases same : j = i
      · subst same; exact mode
      · exact readers j k ((becomeOther s i _ same).trans h)
    · obtain ⟨pre,split,body⟩ := inv.writer i l inside mode
      rw [split,afterSnoc,law.computes body ended]

theorem invStep (law : Serves P serve) (inv : Inv P serve req x trace s) {e : ι × Action}
    {t : State ι σ ℓ ω} (step : Step P req s e t) : Inv P serve req x (trace ++ [e]) t := by
  cases step with
  | acquire idle granted => exact invAcquire law inv idle granted
  | advance inside more => exact invAdvance law inv inside more
  | release inside ended => exact invRelease law inv inside ended

theorem invPath (law : Serves P serve) (inv : Inv P serve req x trace s) {more : List (ι × Action)}
    {t : State ι σ ℓ ω} (path : Execution P req s more t) : Inv P serve req x (trace ++ more) t := by
  induction path generalizing trace with
  | nil => simpa using inv
  | cons first later ih => simpa using ih (invStep law inv first)

/-! What a finished execution shows from outside. -/
def Precedes (trace : List (ι × Action)) (i j : ι) : Prop :=
  ∃ early between late, trace = early ++ (i,.release)::(between ++ (j,.acquire)::late)

/-- The requests one after the other: each once, no request before one that had
already finished, and the same answers and shared value. -/
structure SerialRun (serve : ρ → σ → ω × σ) (req : ι → ρ) (x : σ) (trace : List (ι × Action))
    (s : State ι σ ℓ ω) (order : List ι) : Prop where
  once : order.Nodup
  everyone : ∀ i, i ∈ order
  realTime : ∀ i j, Precedes trace i j → [i,j].Sublist order
  value : s.shared = after serve req x order
  answers : ∀ i a, s.phase i = .returned a → AnsweredAt serve req x order i a

theorem precedesGrants (law : Serves P serve)
    (path : Execution P req (initial x) trace s) {j : ι} (before : Precedes trace i j) :
    [i,j].Sublist (grants trace) := by
  obtain ⟨early,between,late,split⟩ := before
  rw [split] at path
  obtain ⟨m,left,right⟩ := pathSplit path
  -- the release finds its thread inside, so the lock was granted to it earlier
  have granted : i ∈ grants early := by
    cases right with
    | cons first later =>
      cases first with
      | release inside ended => exact ((invPath law invInitial left).started i).mpr (by simp [inside])
  rw [split,grantsAppend]
  refine List.Sublist.append (List.singleton_sublist.mpr granted) (List.singleton_sublist.mpr ?_)
  exact List.mem_filterMap.mpr ⟨(j,.acquire),by simp,rfl⟩

theorem serializable (law : Serves P serve) (path : Execution P req (initial x) trace s)
    (finished : ∀ i, ∃ a, s.phase i = .returned a) : SerialRun serve req x trace s (grants trace) := by
  have inv : Inv P serve req x trace s := invPath law invInitial path
  refine ⟨inv.nodup,?_,fun i j before => precedesGrants law path before,?_,inv.answers⟩
  · intro i
    obtain ⟨a,ended⟩ := finished i
    exact (inv.started i).mpr (by simp [ended])
  · refine inv.settled fun i l inside => ?_
    obtain ⟨a,ended⟩ := finished i
    simp [ended] at inside

theorem steadyStep (law : Serves P serve) (inv : Inv P serve req x trace s)
    (inside : s.phase i = .holding l) (mode : P.mode (req i) = .read) {e : ι × Action}
    {t : State ι σ ℓ ω} (step : Step P req s e t) (stays : e ≠ (i,.release)) :
    t.shared = s.shared ∧ ∃ k, t.phase i = .holding k := by
  cases step with
  | @acquire j idle granted =>
    have other : i ≠ j := by rintro rfl; simp [inside] at idle
    exact ⟨rfl,l,by rw [becomeOther s j _ other,inside]⟩
  | @advance j k within more =>
    by_cases same : i = j
    · subst same
      exact ⟨law.readOnly k s.shared mode,_,becomeSame s i _⟩
    · have read := inv.apart j i k l within inside (Ne.symm same)
      exact ⟨law.readOnly k s.shared read,l,by
        have kept := becomeOther s j (.holding (P.advance (req j) k s.shared).1) same
        exact kept.trans inside⟩
  | @release j k a within ended =>
    have other : i ≠ j := by rintro rfl; exact stays rfl
    exact ⟨rfl,l,by rw [becomeOther s j _ other,inside]⟩

theorem steadyPath (law : Serves P serve) (inv : Inv P serve req x trace s)
    (inside : s.phase i = .holding l) (mode : P.mode (req i) = .read) {more : List (ι × Action)}
    {t : State ι σ ℓ ω} (path : Execution P req s more t) (stays : (i,.release) ∉ more) :
    t.shared = s.shared := by
  induction path generalizing trace l with
  | nil => rfl
  | cons first later ih =>
    rw [List.mem_cons,not_or] at stays
    obtain ⟨same,k,still⟩ := steadyStep law inv inside mode first (Ne.symm stays.1)
    exact (ih (invStep law inv first) still stays.2).trans same

theorem readerSnapshot (law : Serves P serve) (inv : Inv P serve req x trace s)
    (inside : s.phase i = .holding l) (mode : P.mode (req i) = .read) {more : List (ι × Action)}
    {t : State ι σ ℓ ω} (path : Execution P req s more t) (ended : t.phase i = .returned a) :
    a = (serve (req i) s.shared).1 := by
  obtain ⟨_,pre,post,granted,value⟩ := inv.reader i l inside mode
  have later := invPath law inv path
  obtain ⟨pre',post',split,answer⟩ := later.answers i a ended
  -- a request is granted once, so both orders cut at the same place
  have order : grants (trace ++ more) = pre ++ i::(post ++ grants more) := by
    rw [grantsAppend,granted,List.append_assoc,List.cons_append]
  have once := later.nodup
  rw [order,List.nodup_middle,List.nodup_cons,List.mem_append,not_or] at once
  rw [order,List.append_cons_inj_of_notMem once.1.1 once.1.2] at split
  rw [answer,← split.1,value]

structure Window (P : Program σ ρ ℓ ω) (serve : ρ → σ → ω × σ) (req : ι → ρ) (x : σ)
    (trace : List (ι × Action)) (s : State ι σ ℓ ω) (i : ι) (early rest : List (ι × Action))
    (m : State ι σ ℓ ω) : Prop where
  split : trace = early ++ (i,.acquire)::rest
  reached : Execution P req (initial x) early m
  answer : s.phase i = .returned (serve (req i) m.shared).1
  still : ∀ inside late n, rest = inside ++ late → (i,.release) ∉ inside →
    Execution P req m ((i,.acquire)::inside) n → n.shared = m.shared

theorem readerWindow (law : Serves P serve) (path : Execution P req (initial x) trace s)
    (ended : s.phase i = .returned a) (mode : P.mode (req i) = .read) :
    ∃ early rest m, Window P serve req x trace s i early rest m := by
  have granted : i ∈ grants trace := ((invPath law invInitial path).started i).mpr (by simp [ended])
  obtain ⟨early,rest,split⟩ := List.append_of_mem (acquiredMem granted)
  rw [split] at path
  obtain ⟨m,left,right⟩ := pathSplit path
  have inv : Inv P serve req x early m := invPath law invInitial left
  refine ⟨early,rest,m,split,left,?_,?_⟩
  · cases right with
    | cons first later =>
      cases first with
      | acquire idle alone =>
        have value := readerSnapshot law (invAcquire law inv idle alone) (becomeSame m i _) mode later ended
        rw [ended,value,becomeShared]
  · intro inside late n _ stays path
    cases path with
    | cons first later =>
      cases first with
      | acquire idle alone =>
        exact steadyPath law (invAcquire law inv idle alone) (becomeSame m i _) mode later stays

end Preservation

/-! Completion. A body whose steps count down always ends, so from every reachable state
the requests inside can finish, and then the waiting ones after them. -/
def CountsDown (P : Program σ ρ ℓ ω) (left : ρ → ℓ → σ → Nat) : Prop :=
  ∀ r x l y, Reaches P r (P.enter r,x) (l,y) → P.finished l = none →
    left r (P.advance r l y).1 (P.advance r l y).2 < left r l y

section Completion
variable {P : Program σ ρ ℓ ω} {serve : ρ → σ → ω × σ} {req : ι → ρ} {x : σ}
  {trace : List (ι × Action)} {s : State ι σ ℓ ω} {left : ρ → ℓ → σ → Nat}

omit [DecidableEq ι] in
theorem insideReaches (inv : Inv P serve req x trace s) {i : ι} {l : ℓ} (inside : s.phase i = .holding l) :
    ∃ y, Reaches P (req i) (P.enter (req i),y) (l,s.shared) := by
  rcases modeCases (P.mode (req i)) with mode | mode
  · exact ⟨_,(inv.reader i l inside mode).1⟩
  · obtain ⟨_,_,body⟩ := inv.writer i l inside mode
    exact ⟨_,body⟩

theorem finishOne (law : Serves P serve) (down : CountsDown P left) (inv : Inv P serve req x trace s)
    {i : ι} {l : ℓ} (inside : s.phase i = .holding l) :
    ∃ more t, Execution P req s more t ∧ (∃ a, t.phase i = .returned a) ∧
      ∀ j, j ≠ i → t.phase j = s.phase j := by
  generalize count : left (req i) l s.shared = n
  induction n using Nat.strongRecOn generalizing s l trace with
  | _ n ih =>
    cases ended : P.finished l with
    | some a =>
      have step : Step P req s (i,.release) (s.become i (.returned a)) := .release inside ended
      exact ⟨[(i,.release)],_,.cons step (.nil _),⟨a,becomeSame s i _⟩,fun j other => becomeOther s i _ other⟩
    | none =>
      obtain ⟨y,body⟩ := insideReaches inv inside
      have less := down _ y l s.shared body ended
      rw [count] at less
      have step : Step P req s (i,.advance)
          {s.become i (.holding (P.advance (req i) l s.shared).1) with
            shared := (P.advance (req i) l s.shared).2} := .advance inside ended
      obtain ⟨more,t,path,answered,others⟩ := ih _ less (invStep law inv step) (becomeSame s i _) rfl
      exact ⟨(i,.advance)::more,t,.cons step path,answered,
        fun j other => (others j other).trans (becomeOther s i _ other)⟩

theorem startOne (law : Serves P serve) (down : CountsDown P left) (inv : Inv P serve req x trace s)
    {i : ι} (waiting : s.phase i = .waiting) (alone : ∀ j l, s.phase j ≠ .holding l) :
    ∃ more t, Execution P req s more t ∧ (∃ a, t.phase i = .returned a) ∧
      ∀ j, j ≠ i → t.phase j = s.phase j := by
  have step : Step P req s (i,.acquire) (s.become i (.holding (P.enter (req i)))) :=
    .acquire waiting fun j l inside => absurd inside (alone j l)
  obtain ⟨more,t,path,answered,others⟩ := finishOne law down (invStep law inv step) (becomeSame s i _)
  exact ⟨(i,.acquire)::more,t,.cons step path,answered,
    fun j other => (others j other).trans (becomeOther s i _ other)⟩

theorem finishNext (law : Serves P serve) (down : CountsDown P left) (inv : Inv P serve req x trace s)
    {i : ι} (pending : ∀ a, s.phase i ≠ .returned a) :
    ∃ k more t, (∀ a, s.phase k ≠ .returned a) ∧ Execution P req s more t ∧
      (∃ a, t.phase k = .returned a) ∧ ∀ j, j ≠ k → t.phase j = s.phase j := by
  by_cases inside : ∃ k l, s.phase k = .holding l
  · obtain ⟨k,l,inside⟩ := inside
    obtain ⟨more,t,done⟩ := finishOne law down inv inside
    exact ⟨k,more,t,by simp [inside],done⟩
  · have alone : ∀ j l, s.phase j ≠ .holding l := fun j l h => inside ⟨j,l,h⟩
    cases phase : s.phase i with
    | waiting =>
      obtain ⟨more,t,done⟩ := startOne law down inv phase alone
      exact ⟨i,more,t,pending,done⟩
    | holding l => exact absurd phase (alone i l)
    | returned a => exact absurd phase (pending a)

theorem finishAll (law : Serves P serve) (down : CountsDown P left) (inv : Inv P serve req x trace s)
    (todo : List ι) (rest : ∀ i, i ∉ todo → ∃ a, s.phase i = .returned a) :
    ∃ more t, Execution P req s more t ∧ ∀ i, ∃ a, t.phase i = .returned a := by
  generalize size : todo.length = n
  induction n using Nat.strongRecOn generalizing s trace todo with
  | _ n ih =>
    by_cases finished : ∀ i, ∃ a, s.phase i = .returned a
    · exact ⟨[],s,.nil s,finished⟩
    · obtain ⟨i,pending⟩ := not_forall.mp finished
      obtain ⟨k,more,t,pendingIs,path,answered,others⟩ := finishNext law down inv (not_exists.mp pending)
      have listed : k ∈ todo := by
        by_contra absent
        obtain ⟨a,done⟩ := rest k absent
        exact pendingIs a done
      have fewer : (todo.filter (· ≠ k)).length < n := by
        rw [← size,List.length_filter_lt_length_iff_exists]
        exact ⟨k,listed,by simp⟩
      obtain ⟨later,u,end_,all⟩ := ih _ fewer (invPath law inv path) (todo.filter (· ≠ k)) (by
        intro j absent
        by_cases same : j = k
        · exact same ▸ answered
        · rw [others j same]
          exact rest j fun mem => absent (List.mem_filter.mpr ⟨mem,by simpa using same⟩)) rfl
      exact ⟨more ++ later,u,pathJoin path end_,all⟩

end Completion

/-! Every execution is bounded: a thread takes its grant, the steps its countdown at the
grant allows and its release, whatever the others do meanwhile. -/
def turns (trace : List (ι × Action)) (i : ι) : Nat := trace.countP (·.1 = i)

section Bounded
variable {P : Program σ ρ ℓ ω} {serve : ρ → σ → ω × σ} {req : ι → ρ} {x : σ}
  {trace : List (ι × Action)} {s t : State ι σ ℓ ω} {left : ρ → ℓ → σ → Nat} {bound : Nat}

theorem turnsSnoc (trace : List (ι × Action)) (e : ι × Action) (i : ι) :
    turns (trace ++ [e]) i = turns trace i + if e.1 = i then 1 else 0 := by
  simp [turns,List.countP_append]

-- What thread `i` has taken, and may still take, stays within the bound.
def Spends (req : ι → ρ) (left : ρ → ℓ → σ → Nat) (bound : Nat) (trace : List (ι × Action))
    (s : State ι σ ℓ ω) (i : ι) : Prop :=
  match s.phase i with
  | .waiting => turns trace i = 0
  | .holding l => turns trace i + left (req i) l s.shared ≤ bound + 1
  | .returned _ => turns trace i ≤ bound + 2

theorem spendsOther (law : Serves P serve) (inv : Inv P serve req x trace s) {e : ι × Action}
    (step : Step P req s e t) {i : ι} (other : e.1 ≠ i) (spends : Spends req left bound trace s i) :
    Spends req left bound (trace ++ [e]) t i := by
  have same : turns (trace ++ [e]) i = turns trace i := by rw [turnsSnoc,if_neg other,Nat.add_zero]
  cases step with
  | acquire idle granted =>
    simpa only [Spends,becomeOther s _ _ (Ne.symm other),becomeShared,same] using spends
  | @advance j l inside more =>
    have still := becomeOther s j (.holding (P.advance (req j) l s.shared).1) (Ne.symm other)
    simp only [State.become] at still
    simp only [Spends,State.become,still,same] at spends ⊢
    cases phase : s.phase i with
    | waiting => simpa only [phase] using spends
    | holding k => simpa only [phase,besideAdvance law inv inside (Ne.symm other) phase] using spends
    | returned a => simpa only [phase] using spends
  | release inside ended =>
    simpa only [Spends,becomeOther s _ _ (Ne.symm other),becomeShared,same] using spends

theorem spendsOwn (down : CountsDown P left) (inv : Inv P serve req x trace s) {i : ι} {a : Action}
    (step : Step P req s (i,a) t) (enough : left (req i) (P.enter (req i)) s.shared ≤ bound)
    (spends : Spends req left bound trace s i) : Spends req left bound (trace ++ [(i,a)]) t i := by
  have one : turns (trace ++ [(i,a)]) i = turns trace i + 1 := by rw [turnsSnoc,if_pos rfl]
  cases step with
  | acquire idle granted =>
    simp only [Spends,idle] at spends
    simp only [Spends,becomeSame,becomeShared,one]
    omega
  | @advance _ l inside more =>
    obtain ⟨y,body⟩ := insideReaches inv inside
    have less := down _ y l s.shared body more
    simp only [Spends,inside] at spends
    simp only [Spends,State.become,Function.update_self,one]
    omega
  | release inside ended =>
    simp only [Spends,inside] at spends
    simp only [Spends,becomeSame,one]
    omega

theorem spendsPath (law : Serves P serve) (down : CountsDown P left)
    (enough : ∀ past m i, Execution P req (initial x) past m → left (req i) (P.enter (req i)) m.shared ≤ bound)
    (path : Execution P req (initial x) trace s) (i : ι) : Spends req left bound trace s i := by
  induction trace using List.reverseRecOn generalizing s with
  | nil => cases path; rfl
  | append_singleton past e ih =>
    obtain ⟨m,before,last⟩ := pathSplit path
    obtain ⟨j,a⟩ := e
    have inv : Inv P serve req x past m := invPath law invInitial before
    cases last with
    | cons step rest =>
      cases rest
      by_cases own : j = i
      · subst own
        exact spendsOwn down inv step (enough past m j before) (ih before)
      · exact spendsOther law inv step own (ih before)

theorem turnsBounded (law : Serves P serve) (down : CountsDown P left)
    (enough : ∀ past m i, Execution P req (initial x) past m → left (req i) (P.enter (req i)) m.shared ≤ bound)
    (path : Execution P req (initial x) trace s) (i : ι) : turns trace i ≤ bound + 2 := by
  have spends := spendsPath law down enough path i
  unfold Spends at spends
  split at spends <;> omega

theorem lengthBounded {everyone : List ι} {trace : List (ι × Action)} (mem : ∀ e ∈ trace, e.1 ∈ everyone)
    (each : ∀ i, turns trace i ≤ bound) : trace.length ≤ everyone.length * bound := by
  induction everyone generalizing trace with
  | nil =>
    have none_ : trace = [] := List.eq_nil_iff_forall_not_mem.mpr fun e here => List.not_mem_nil (mem e here)
    rw [none_]
    exact Nat.zero_le _
  | cons i rest ih =>
    have others : (trace.filter (¬ ·.1 = i)).length ≤ rest.length * bound := ih
      (fun e here => by
        have both := List.mem_filter.mp here
        exact (List.mem_cons.mp (mem e both.1)).resolve_left (by simpa using both.2))
      fun j => Nat.le_trans List.filter_sublist.countP_le (each j)
    have whole := List.length_eq_countP_add_countP (fun e : ι × Action => decide (e.1 = i)) (l := trace)
    have own := each i
    rw [← List.countP_eq_length_filter] at others
    rw [List.length_cons,Nat.succ_mul]
    unfold turns at own
    simp only [decide_eq_true_eq] at whole
    omega

end Bounded

/-! Interruption. A body that changes the value in one stroke leaves it, wherever it is
broken off, as it was or as its request makes it. -/
def Stroke (P : Program σ ρ ℓ ω) (serve : ρ → σ → ω × σ) : Prop :=
  ∀ r x l y, Reaches P r (P.enter r,x) (l,y) → y = x ∨ y = (serve r x).2

/-- The value is that of started requests one after the other: each once, all that have
returned with the answer they gave, and none before one that had already finished. -/
structure Interrupted (serve : ρ → σ → ω × σ) (req : ι → ρ) (x : σ) (trace : List (ι × Action))
    (s : State ι σ ℓ ω) (order : List ι) : Prop where
  once : order.Nodup
  started : ∀ i ∈ order, s.phase i ≠ .waiting
  answers : ∀ i a, s.phase i = .returned a → AnsweredAt serve req x order i a
  realTime : ∀ i j, Precedes trace i j → j ∈ order → [i,j].Sublist order
  value : s.shared = after serve req x order

section Interruption
variable {P : Program σ ρ ℓ ω} {serve : ρ → σ → ω × σ} {req : ι → ρ} {x : σ}
  {trace : List (ι × Action)} {s : State ι σ ℓ ω}

omit [DecidableEq ι] in
theorem answeredBefore {pre : List ι} {i j : ι} {a : ω} (other : j ≠ i)
    (answered : AnsweredAt serve req x (pre ++ [i]) j a) : AnsweredAt serve req x pre j a := by
  obtain ⟨early,late,split,value⟩ := answered
  rcases List.eq_nil_or_concat late with rfl | ⟨inner,last,rfl⟩
  · exact absurd (List.append_inj_right' split rfl) (by simp [Ne.symm other])
  · have same : pre ++ [i] = (early ++ j::inner) ++ [last] := by
      rw [split,List.concat_eq_append,List.append_assoc,List.cons_append]
    exact ⟨early,inner,List.append_inj_left' same rfl,value⟩

omit [DecidableEq ι] in
theorem sublistBefore {pre : List ι} {i j k : ι} (other : k ≠ i) (both : [j,k].Sublist (pre ++ [i])) :
    [j,k].Sublist pre := by
  obtain ⟨left,right,split,inPre,last⟩ := List.sublist_append_iff.mp both
  rcases List.sublist_singleton.mp last with rfl | rfl
  · rw [split,List.append_nil]
    exact inPre
  · have same := congrArg List.getLast? split
    simp [other] at same

theorem interrupted (law : Serves P serve) (stroke : Stroke P serve)
    (path : Execution P req (initial x) trace s) : ∃ order, Interrupted serve req x trace s order := by
  have inv : Inv P serve req x trace s := invPath law invInitial path
  have whole (value : s.shared = after serve req x (grants trace)) :
      Interrupted serve req x trace s (grants trace) :=
    ⟨inv.nodup,fun i mem => (inv.started i).mp mem,inv.answers,fun i j before _ => precedesGrants law path before,value⟩
  by_cases writing : ∃ i l, s.phase i = .holding l ∧ P.mode (req i) = .write
  · obtain ⟨i,l,inside,mode⟩ := writing
    obtain ⟨pre,granted,body⟩ := inv.writer i l inside mode
    rcases stroke _ _ _ _ body with before | done
    · have nodup := inv.nodup
      rw [granted] at nodup
      have absent : i ∉ pre := fun mem => (List.disjoint_of_nodup_append nodup) mem (List.mem_singleton_self i)
      refine ⟨pre,(List.nodup_append.mp nodup).1,fun j mem => ?_,fun j a returned => ?_,fun j k prior mem => ?_,before⟩
      · exact (inv.started j).mp (granted ▸ List.mem_append_left _ mem)
      · have answered := inv.answers j a returned
        rw [granted] at answered
        refine answeredBefore ?_ answered
        rintro rfl
        rw [inside] at returned
        contradiction
      · have both := precedesGrants law path prior
        rw [granted] at both
        exact sublistBefore (ne_of_mem_of_not_mem mem absent) both
    · refine ⟨grants trace,whole ?_⟩
      rw [granted,afterSnoc]
      exact done
  · refine ⟨grants trace,whole (inv.settled fun i l inside => ?_)⟩
    rcases modeCases (P.mode (req i)) with mode | mode
    · exact mode
    · exact absurd ⟨i,l,inside,mode⟩ writing

end Interruption
end HelloMantids.SharedLock
