import HelloMantids.WebBoard

/-! The table over time. Its counter never falls and a row once gone never comes back,
so an id that was given out names one message for ever. -/
namespace HelloMantids
open Transition
variable {σ : Type}

def Database.next (db : Database) : Nat := (db.map Posts.auto).getD 1

structure Continues (db later : Database) : Prop where
  counter : db.next ≤ later.next
  old : ∀ q ∈ later.rows, q.id < db.next → q ∈ db.rows

theorem rowsGiven {db : Database} {r : Row} (mem : r ∈ db.rows) : r.id < db.next := by
  cases db with
  | none => simp [Database.rows] at mem
  | some t => exact (t.assigned r mem).2.1

theorem continuesSame (db : Database) : Continues db db := ⟨Nat.le_refl _,fun _ mem _ => mem⟩

theorem continuesJoin {db mid later : Database} (first : Continues db mid) (second : Continues mid later) :
    Continues db later where
  counter := Nat.le_trans first.counter second.counter
  old q mem given := first.old q (second.old q mem (Nat.lt_of_lt_of_le given first.counter)) given

theorem continuesCreated : Continues none (some Posts.empty) := ⟨Nat.le_refl 1,fun _ mem _ => mem⟩

theorem continuesEffect {R : Readers} {x : BoardServed} (does : Effect R x) : Continues x.before x.after := by
  cases does with
  | posted sess payload o t u event answer before after rows auto =>
    rw [before,after]
    constructor
    · simp only [Database.next,Option.map_some,Option.getD_some,auto]
      omega
    · intro q mem given
      have listed : q ∈ u.rows := mem
      rw [rows,List.mem_append,List.mem_singleton] at listed
      rcases listed with earlier | new
      · exact earlier
      · subst new
        simp only [Database.next,Option.map_some,Option.getD_some,newPostId] at given
        omega
  | removed sess payload o t event answer before after =>
    rw [before,after]
    exact ⟨Nat.le_refl _,fun q mem _ => List.mem_of_mem_filter mem⟩
  | kept act after =>
    rcases after with same | ⟨missing,made⟩
    · rw [same]; exact continuesSame _
    · rw [missing,made]
      exact continuesCreated

theorem continuesMoved (R : Readers) (db : Database) (call : Option BoardCall) :
    Continues db (moved (boardStep R) db call) := by
  cases call with
  | none => exact continuesSame db
  | some call => exact continuesEffect (effect R db call)

theorem continuesStep (R : Readers) (F : FastRPC σ) (admits : List String → Session → Bool)
    (s : Server σ) (e : Event) : Continues s.db (step R F admits s e).1.db := by
  rw [stepCalled]
  exact continuesMoved R s.db _

theorem continuesRun (R : Readers) (F : FastRPC σ) (admits : List String → Session → Bool)
    (s : Server σ) (events : List Event) : Continues s.db (final (step R F admits) s events).db :=
  relatedFinal (step R F admits) (fun s t => Continues s.db t.db) (fun s => continuesSame s.db)
    continuesJoin (continuesStep R F admits) s events

section Rows
variable {db mid later : Database} {r q : Row}

theorem continuesRow (after : Continues db later) (mem : r ∈ db.rows) (back : q ∈ later.rows)
    (id : q.id = r.id) : q = r := by
  have old := after.old q back (id ▸ rowsGiven mem)
  cases db with
  | none => simp [Database.rows] at mem
  | some t => exact t.sameRow old mem id

theorem continuesBetween (first : Continues db mid) (second : Continues mid later) (mem : r ∈ db.rows)
    (still : r ∈ later.rows) : r ∈ mid.rows :=
  second.old r still (Nat.lt_of_lt_of_le (rowsGiven mem) first.counter)

theorem continuesGone (first : Continues db mid) (second : Continues mid later) (mem : r ∈ db.rows)
    (gone : r ∉ mid.rows) : ∀ q ∈ later.rows, q.id ≠ r.id := by
  intro q back id
  have same := continuesRow (continuesJoin first second) mem back id
  exact gone (continuesBetween first second mem (same ▸ back))

end Rows

/-- An id seen on the board names the same message ever after, and none once that
message is gone. -/
theorem idNamesOneMessage (R : Readers) (F : FastRPC σ) (admits : List String → Session → Bool)
    (s : Server σ) (past since more : List Event) {r : Row}
    (seen : r ∈ (final (step R F admits) s past).db.rows) :
    (∀ q ∈ (final (step R F admits) s (past ++ since ++ more)).db.rows, q.id = r.id → q = r) ∧
    (r ∉ (final (step R F admits) s (past ++ since)).db.rows →
      ∀ q ∈ (final (step R F admits) s (past ++ since ++ more)).db.rows, q.id ≠ r.id) := by
  have first := continuesRun R F admits (final (step R F admits) s past) since
  have second := continuesRun R F admits (final (step R F admits) s (past ++ since)) more
  rw [← finalAppend] at first second
  exact ⟨fun q back id => continuesRow (continuesJoin first second) seen back id,
    continuesGone first second seen⟩

def onePostUp : Server (List (String × Socket)) := ⟨some onePost,[],[]⟩

def removal : Event :=
  .web "remote.control" ⟨"ana","1",["control"]⟩
    (.object [("target",.string "DB"),("remoteMethod",.string "control.removeMessage"),
      ("payload",.object [("id",.int 1)])]) ⟨⟨true,"",0,"t1",true⟩,.delivers⟩

theorem removedIdStaysGone :
    1 ∉ (final (step Readers.plain FastRPC.registry admitsAll) onePostUp
      ([] ++ [removal] ++ [secondPost])).db.rows.map Row.id := by
  have gone := (idNamesOneMessage Readers.plain FastRPC.registry admitsAll onePostUp [] [removal] [secondPost]
    (r := ⟨1,"hello","ana","t0"⟩) (by decide)).2 (by decide)
  intro back
  obtain ⟨q,mem,id⟩ := List.mem_map.mp back
  exact gone q mem id

end HelloMantids
