import Mathlib.Algebra.Group.Nat.Defs
import Mathlib.Data.List.Nodup

/-! The `posts` table and the statements sent to it through the SQL connector. The
server may refuse any statement; an accepted one has its SQL meaning under the
schema's limits. A text too long for its column is cut to it, in a strict `sql_mode`
only if nothing but blanks is lost. -/
namespace HelloMantids

structure Row where
  id : Nat
  message : String
  createdBy : String
  creationDate : String
  deriving DecidableEq, Repr

def maxInteger : Nat := 2147483647

/-- `id` is the PRIMARY KEY and AUTO_INCREMENT; `auto` is the counter's next value. -/
@[ext] structure Posts where
  rows : List Row
  auto : Nat
  positive : 1 ≤ auto
  assigned : ∀ r ∈ rows, 1 ≤ r.id ∧ r.id < auto ∧ r.id ≤ maxInteger
  key : (rows.map Row.id).Nodup
  deriving DecidableEq

namespace Posts

def empty : Posts := ⟨[],1,Nat.le_refl 1,by simp,by simp⟩

def append (t : Posts) (r : Row) (fresh : t.auto ≤ r.id) (small : r.id ≤ maxInteger) : Posts where
  rows := t.rows ++ [r]
  auto := r.id + 1
  positive := Nat.le_add_left 1 r.id
  assigned := by
    intro q mem
    rcases List.mem_append.mp mem with old | new
    · have h := t.assigned q old; omega
    · have same : q = r := by simpa using new
      subst same
      have h := t.positive; omega
  key := by
    rw [List.map_append]
    refine List.nodup_append.mpr ⟨t.key,by simp,?_⟩
    intro n old m new
    obtain ⟨q,mem,rfl⟩ := List.mem_map.mp old
    have h := t.assigned q mem
    have same : m = r.id := by simpa using new
    omega

def delete (t : Posts) (id : Nat) : Posts where
  rows := t.rows.filter (fun r => r.id ≠ id)
  auto := t.auto
  positive := t.positive
  assigned r mem := t.assigned r (List.mem_of_mem_filter mem)
  key := t.key.sublist (List.filter_sublist.map Row.id)

def take (t : Posts) (k : Nat) : Posts where
  rows := t.rows.take k
  auto := t.auto
  positive := t.positive
  assigned r mem := t.assigned r (List.mem_of_mem_take mem)
  key := t.key.sublist ((List.take_sublist k t.rows).map Row.id)

theorem sameRow (t : Posts) {a b : Row} (left : a ∈ t.rows) (right : b ∈ t.rows) (id : a.id = b.id) :
    a = b := List.inj_on_of_nodup_map t.key left right id

theorem deleteAbsent (t : Posts) {id : Nat} (absent : ∀ r ∈ t.rows, r.id ≠ id) : t.delete id = t := by
  have rows : t.rows.filter (fun r => r.id ≠ id) = t.rows :=
    List.filter_eq_self.mpr fun r mem => by simpa using absent r mem
  exact Posts.ext rows rfl

theorem deleteZero (t : Posts) : t.delete 0 = t :=
  t.deleteAbsent fun r mem => Nat.one_le_iff_ne_zero.mp (t.assigned r mem).1

theorem deleteTwice (t : Posts) (id : Nat) : (t.delete id).delete id = t.delete id :=
  (t.delete id).deleteAbsent fun r mem => by simpa using (List.mem_filter.mp mem).2

end Posts

-- No table before `initSchema` first creates it.
abbrev Database := Option Posts

def Database.rows (db : Database) : List Row := (db.map Posts.rows).getD []

/-- What the server does with one writing statement: whether it takes it, its error
text if not, and for an insert the counter values skipped, the current time and whether
its `sql_mode` is strict. -/
structure Exec where
  accepted : Bool
  error : String
  skip : Nat
  now : String
  strict : Bool
  deriving DecidableEq, Repr

/-! Character columns, in a character set that has every character of the texts. -/
def varchar (n : Nat) (text : String) : String := String.ofList (text.toList.take n)

def blankBeyond (n : Nat) (text : String) : Bool := (text.toList.drop n).all (· = ' ')

theorem varcharShort {n : Nat} {text : String} (short : text.length ≤ n) : varchar n text = text := by
  rw [varchar,List.take_of_length_le (by rwa [String.length_toList]),String.ofList_toList]

theorem varcharLength (n : Nat) (text : String) : (varchar n text).length ≤ n := by
  rw [varchar,String.length_ofList]
  exact List.length_take_le _ _

inductive Statement where
  | createPosts
  | insertPost (message createdBy : String)
  | deletePost (id : Nat)
  deriving DecidableEq, Repr

def newPost (id : Nat) (o : Exec) (message createdBy : String) : Row :=
  ⟨id,varchar 1024 message,varchar 256 createdBy,o.now⟩

@[simp] theorem newPostId (id o message createdBy) : (newPost id o message createdBy).id = id := rfl

/-- The table takes a new row: in a strict mode its texts lose blanks only, and the
counter has not run out. -/
structure Posts.Takes (t : Posts) (o : Exec) (message createdBy : String) : Prop where
  texts : o.strict = true → blankBeyond 1024 message = true ∧ blankBeyond 256 createdBy = true
  counter : t.auto + o.skip ≤ maxInteger

instance (t : Posts) (o message createdBy) : Decidable (t.Takes o message createdBy) :=
  decidable_of_iff ((o.strict = true → blankBeyond 1024 message = true ∧ blankBeyond 256 createdBy = true) ∧
    t.auto + o.skip ≤ maxInteger) ⟨fun both => ⟨both.1,both.2⟩,fun takes => ⟨takes.texts,takes.counter⟩⟩

def Posts.insert (t : Posts) (o : Exec) (message createdBy : String) : Option Posts :=
  if takes : t.Takes o message createdBy then
    some (t.append (newPost (t.auto + o.skip) o message createdBy) (Nat.le_add_right _ _) takes.counter)
  else none

def Statement.apply (o : Exec) : Statement → Database → Option Database
  | .createPosts,none => some (some Posts.empty)
  | .createPosts,some _ => none
  | .insertPost message createdBy,some t => (t.insert o message createdBy).map some
  | .deletePost id,some t => some (some (t.delete id))
  | .insertPost ..,none => none
  | .deletePost _,none => none

structure QueryResult where
  succeeded : Bool
  lastSQLError : String
  db : Database

def query (o : Exec) (db : Database) (statement : Statement) : QueryResult :=
  match (if o.accepted then statement.apply o db else none) with
  | some changed => ⟨true,"",changed⟩
  | none => ⟨false,o.error,db⟩

theorem queryFailed {o db statement} (failed : (query o db statement).succeeded = false) :
    (query o db statement).db = db := by
  unfold query at failed ⊢
  split at failed
  · contradiction
  · rfl

theorem querySucceeded {o db statement} (ok : (query o db statement).succeeded = true) :
    statement.apply o db = some (query o db statement).db := by
  unfold query at ok ⊢
  split at ok
  · rename_i changed found
    split at found
    · exact found
    · contradiction
  · contradiction

theorem queryTaken {o : Exec} {db : Database} {statement : Statement} :
    (query o db statement).succeeded = true ↔ o.accepted = true ∧ (statement.apply o db).isSome = true := by
  unfold query
  cases o.accepted with
  | false => simp
  | true => cases statement.apply o db <;> simp

theorem insertTaken {o : Exec} {db : Database} {message createdBy : String} :
    (query o db (.insertPost message createdBy)).succeeded = true ↔
      o.accepted = true ∧ ∃ t, db = some t ∧ t.Takes o message createdBy := by
  rw [queryTaken]
  refine and_congr_right fun _ => ?_
  cases db with
  | none => simp [Statement.apply]
  | some t =>
    simp only [Statement.apply,Posts.insert,Option.isSome_map,Option.some.injEq,exists_eq_left']
    split <;> simp [*]

theorem deleteTaken {o : Exec} {db : Database} {id : Nat} :
    (query o db (.deletePost id)).succeeded = true ↔ o.accepted = true ∧ db.isSome = true := by
  rw [queryTaken]
  cases db <;> simp [Statement.apply]

theorem inserted {o db message createdBy}
    (ok : (query o db (.insertPost message createdBy)).succeeded = true) :
    ∃ t u, db = some t ∧ (query o db (.insertPost message createdBy)).db = some u ∧
      u.rows = t.rows ++ [newPost (t.auto + o.skip) o message createdBy] ∧ u.auto = t.auto + o.skip + 1 := by
  have applied := querySucceeded ok
  cases db with
  | none => simp [Statement.apply] at applied
  | some t =>
    simp only [Statement.apply,Option.map_eq_some_iff] at applied
    obtain ⟨u,made,last⟩ := applied
    unfold Posts.insert at made
    split at made <;> try contradiction
    cases Option.some.inj made
    exact ⟨t,_,rfl,last.symm,rfl,rfl⟩

theorem deleted {o db id} (ok : (query o db (.deletePost id)).succeeded = true) :
    ∃ t, db = some t ∧ (query o db (.deletePost id)).db = some (t.delete id) := by
  have applied := querySucceeded ok
  cases db with
  | none => simp [Statement.apply] at applied
  | some t => exact ⟨t,rfl,(Option.some.inj applied).symm⟩

theorem created {o db} (ok : (query o db .createPosts).succeeded = true) :
    db = none ∧ (query o db .createPosts).db = some Posts.empty := by
  have applied := querySucceeded ok
  cases db with
  | none => exact ⟨rfl,(Option.some.inj applied).symm⟩
  | some t => simp [Statement.apply] at applied

theorem deletedRows (db : Database) (id : Nat) {q : Row} :
    q ∈ Database.rows (db.map fun t => t.delete id) ↔ q ∈ db.rows ∧ q.id ≠ id := by
  cases db with
  | none => simp [Database.rows]
  | some t => simp [Database.rows,Posts.delete]

/-! Reading. A query instance walks the live table row by row into bound variables;
`step` is false at the end of the rows and at a broken fetch alike. -/
inductive ReadOutcome where
  | selectFails
  | fetchFails (after : Nat)
  | delivers
  deriving DecidableEq, Repr

structure Bound where
  id : Nat
  message : String
  createdBy : String
  creationDate : String
  deriving DecidableEq, Repr

def Bound.fresh : Bound := ⟨0,"","",""⟩

def Bound.load (r : Row) : Bound := ⟨r.id % 2^32,r.message,r.createdBy,r.creationDate⟩

structure QueryInstance where
  resultsOK : Bool
  position : Nat
  breaksAt : Option Nat
  deriving DecidableEq, Repr

def qSelect (o : ReadOutcome) (db : Database) : QueryInstance :=
  match db,o with
  | none,_ => ⟨false,0,none⟩
  | some _,.selectFails => ⟨false,0,none⟩
  | some _,.fetchFails k => ⟨true,0,some k⟩
  | some _,.delivers => ⟨true,0,none⟩

def QueryInstance.advance (q : QueryInstance) : QueryInstance := {q with position := q.position + 1}

def QueryInstance.step (q : QueryInstance) (db : Database) : Option (QueryInstance × Bound) :=
  if q.breaksAt = some q.position then none
  else (db.rows[q.position]?).map fun r => (q.advance,Bound.load r)

def delivered (o : ReadOutcome) (db : Database) : List Row :=
  match o with
  | .selectFails => []
  | .fetchFails k => db.rows.take k
  | .delivers => db.rows

def onePost : Posts := Posts.empty.append ⟨1,"hello","ana","t0"⟩ (by decide) (by decide)

end HelloMantids
