import HelloMantids.Handlers
import HelloMantids.Ledger
import HelloMantids.Transition

/-! The message board that the posts table stores: the messages whose creation was
answered true and that no removal answered true named since, as far as their texts fit
the columns. Runs start without a table and mix the three handlers, restarts and refused
statements in any order. -/
namespace HelloMantids
open Transition Ledger

inductive BoardCall where
  | createMessage (sess : Session) (payload : Json) (o : Exec)
  | removeMessage (sess : Session) (payload : Json) (o : Exec)
  | getMessages (sess : Session) (payload : Json) (o : ReadOutcome)
  | restart (config : DBConfig) (o : StartOutcome)

def boardStep (R : Readers) (db : Database) : BoardCall → Database × Json
  | .createMessage sess payload o =>
      let handled := createMessage R o sess payload db
      (handled.db,handled.answer)
  | .removeMessage sess payload o =>
      let handled := removeMessage R o sess payload db
      (handled.db,handled.answer)
  | .getMessages _ _ o => (db,(getMessages o db).answer)
  | .restart config o =>
      let started := start config o db
      (started.db,.bool started.returned)

abbrev BoardServed := Served Database BoardCall Json

def nextId (db : Database) (o : Exec) : Nat := (db.map Posts.auto).getD 1 + o.skip

/-- The call posted the message: answered true, with the id given by the table and what
the columns keep of the text read from the payload and of the session's own user. -/
def PostedBy (R : Readers) (x : BoardServed) (m : Row) : Prop :=
  ∃ sess payload o, x.event = .createMessage sess payload o ∧ x.answer = .bool true ∧
    m = newPost (nextId x.before o) o (R.asString payload "message" "") sess.authUser

def RemovedBy (R : Readers) (x : BoardServed) (id : Nat) : Prop :=
  ∃ sess payload o, x.event = .removeMessage sess payload o ∧ x.answer = .bool true ∧ postId R payload = id

def Live (R : Readers) (served : List BoardServed) (m : Row) : Prop :=
  ∃ past x future, served = past ++ x::future ∧ PostedBy R x m ∧ ∀ y ∈ future, ¬ RemovedBy R y m.id

/-! The same as acts of a ledger. -/
def actOf (R : Readers) (x : BoardServed) : Act Nat Row :=
  match x.event,x.answer with
  | .createMessage sess payload o,.bool true =>
      .post (nextId x.before o) (newPost (nextId x.before o) o (R.asString payload "message" "") sess.authUser)
  | .removeMessage _ payload _,.bool true => .retract (postId R payload)
  | _,_ => .idle

theorem actPost {R x id m} : actOf R x = .post id m ↔ m.id = id ∧ PostedBy R x m := by
  constructor
  · intro act
    unfold actOf at act
    split at act <;> try contradiction
    rename_i sess payload o event answer
    cases act
    exact ⟨rfl,sess,payload,o,event,answer,rfl⟩
  · intro source
    obtain ⟨rfl,sess,payload,o,event,answer,rfl⟩ := source
    simp only [actOf,event,answer,newPost]

theorem actRetract {R x id} : actOf R x = .retract id ↔ RemovedBy R x id := by
  constructor
  · intro act
    unfold actOf at act
    split at act <;> try contradiction
    rename_i sess payload o event answer
    cases act
    exact ⟨sess,payload,o,event,answer,rfl⟩
  · intro source
    obtain ⟨sess,payload,o,event,answer,rfl⟩ := source
    simp only [actOf,event,answer]

theorem liveStanding {R : Readers} {served : List BoardServed} {m : Row} :
    Live R served m ↔ Standing (served.map (actOf R)) m.id m := by
  constructor
  · intro live
    obtain ⟨past,x,future,rfl,posted,kept⟩ := live
    refine ⟨past.map (actOf R),future.map (actOf R),?_,?_⟩
    · rw [List.map_append,List.map_cons,actPost.mpr ⟨rfl,posted⟩]
    · intro mem
      obtain ⟨y,inside,act⟩ := List.mem_map.mp mem
      exact kept y inside (actRetract.mp act)
  · intro standing
    obtain ⟨pre,post,split,kept⟩ := standing
    obtain ⟨past,rest,rfl,_,tail⟩ := List.map_eq_append_iff.mp split
    obtain ⟨x,future,rfl,act,later⟩ := List.map_eq_cons_iff.mp tail
    refine ⟨past,x,future,rfl,(actPost.mp act).2,fun y inside removed => kept ?_⟩
    rw [← later]
    exact List.mem_map.mpr ⟨y,inside,actRetract.mpr removed⟩

/-! What one call does to the table, said once. -/
inductive Effect (R : Readers) (x : BoardServed) : Prop where
  | posted (sess payload o t u) (event : x.event = .createMessage sess payload o)
      (answer : x.answer = .bool true) (before : x.before = some t) (after : x.after = some u)
      (rows : u.rows = t.rows ++ [newPost (t.auto + o.skip) o (R.asString payload "message" "") sess.authUser])
      (auto : u.auto = t.auto + o.skip + 1)
  | removed (sess payload o t) (event : x.event = .removeMessage sess payload o)
      (answer : x.answer = .bool true) (before : x.before = some t)
      (after : x.after = some (t.delete (postId R payload)))
  | kept (act : actOf R x = .idle)
      (after : x.after = x.before ∨ (x.before = none ∧ x.after = some Posts.empty))

theorem effect (R : Readers) (db : Database) (call : BoardCall) :
    Effect R (served (boardStep R) db call) := by
  cases call with
  | createMessage sess payload o =>
    rcases createAnswers R o sess payload db with ok | failed
    · obtain ⟨t,u,before,after,rows,auto⟩ := createSucceeded ok
      exact .posted sess payload o t u rfl ok before after rows auto
    · refine .kept ?_ (Or.inl (createFailed failed))
      simp only [actOf,served,boardStep,failed]
  | removeMessage sess payload o =>
    rcases removeAnswers R o sess payload db with ok | failed
    · obtain ⟨t,before,after⟩ := removeSucceeded ok
      exact .removed sess payload o t rfl ok before after
    · refine .kept ?_ (Or.inl (removeFailed failed))
      simp only [actOf,served,boardStep,failed]
  | getMessages sess payload o => exact .kept rfl (Or.inl rfl)
  | restart config o => exact .kept rfl (startRows config o db)

/-! The table refines the board. -/
structure Stores (db : Database) (acts : List (Act Nat Row)) : Prop where
  holds : Holds Row.id db.rows (replay acts)
  once : (keys acts).Nodup
  counted : ∀ id ∈ keys acts, ∃ t, db = some t ∧ id < t.auto

theorem storesStart : Stores none [] where
  holds := holdsNone Row.id
  once := List.nodup_nil
  counted := by simp [keys]

theorem storesIdle {db next : Database} {acts : List (Act Nat Row)} (old : Stores db acts)
    (after : next = db ∨ (db = none ∧ next = some Posts.empty)) : Stores next (acts ++ [.idle]) := by
  have sameKeys : keys (acts ++ [.idle]) = keys acts := by simp [keysSnoc,posted]
  refine ⟨?_,by rw [sameKeys]; exact old.once,?_⟩
  · rw [replaySnoc]
    rcases after with rfl | ⟨rfl,rfl⟩
    · exact old.holds
    · exact old.holds
  · rw [sameKeys]
    intro id mem
    obtain ⟨t,found,less⟩ := old.counted id mem
    rcases after with rfl | ⟨none_,_⟩
    · exact ⟨t,found,less⟩
    · rw [none_] at found; contradiction

/- The table's counter is past every id posted so far, so the new one is fresh. -/
theorem storesPosted {t u : Posts} {acts : List (Act Nat Row)} (old : Stores (some t) acts) (r : Row)
    (fresh : t.auto ≤ r.id) (rows : u.rows = t.rows ++ [r]) (auto : u.auto = r.id + 1) :
    Stores (some u) (acts ++ [.post r.id r]) := by
  have below : ∀ k ∈ keys acts, k < t.auto := by
    intro k mem
    obtain ⟨v,found,less⟩ := old.counted k mem
    cases found
    exact less
  have unused : r.id ∉ keys acts := fun mem => by have h := below _ mem; omega
  have newKey : keys (acts ++ [.post r.id r]) = keys acts ++ [r.id] := by simp [keysSnoc,posted]
  refine ⟨?_,?_,?_⟩
  · have shown : Database.rows (some u) = Database.rows (some t) ++ [r] := rows
    rw [replaySnoc,shown]
    refine holdsPost old.holds ?_
    rw [Option.eq_none_iff_forall_ne_some]
    exact fun m found => unused (standingPosted ((replayStanding old.once _ m).mp found))
  · rw [newKey]
    exact List.nodup_append.mpr ⟨old.once,List.nodup_singleton _,fun k mem j new same =>
      unused (List.mem_singleton.mp new ▸ same ▸ mem)⟩
  · rw [newKey]
    intro k mem
    refine ⟨u,rfl,?_⟩
    rw [auto]
    rcases List.mem_append.mp mem with earlier | newest
    · have h := below k earlier; omega
    · rw [List.mem_singleton.mp newest]; exact Nat.lt_succ_self _

theorem storesRemoved {t : Posts} {acts : List (Act Nat Row)} (old : Stores (some t) acts) (id : Nat) :
    Stores (some (t.delete id)) (acts ++ [.retract id]) := by
  have sameKeys : keys (acts ++ [.retract id]) = keys acts := by simp [keysSnoc,posted]
  refine ⟨?_,by rw [sameKeys]; exact old.once,?_⟩
  · rw [replaySnoc]
    exact holdsRetract old.holds id
  · rw [sameKeys]
    intro k mem
    obtain ⟨v,found,less⟩ := old.counted k mem
    cases found
    exact ⟨_,rfl,less⟩

theorem storesServed {R : Readers} {x : BoardServed} {acts : List (Act Nat Row)}
    (old : Stores x.before acts) (does : Effect R x) : Stores x.after (acts ++ [actOf R x]) := by
  cases does with
  | posted sess payload o t u event answer before after rows auto =>
    have given : nextId x.before o = t.auto + o.skip := by simp [nextId,before]
    have act : actOf R x = .post (t.auto + o.skip)
        (newPost (t.auto + o.skip) o (R.asString payload "message" "") sess.authUser) :=
      actPost.mpr ⟨rfl,sess,payload,o,event,answer,by rw [given]⟩
    rw [before] at old
    rw [act,after]
    exact storesPosted old _ (Nat.le_add_right _ _) rows auto
  | removed sess payload o t event answer before after =>
    have act : actOf R x = .retract (postId R payload) :=
      actRetract.mpr ⟨sess,payload,o,event,answer,rfl⟩
    rw [before] at old
    rw [act,after]
    exact storesRemoved old (postId R payload)
  | kept act after =>
    rw [act]
    exact storesIdle old after

theorem storesRun (R : Readers) (calls : List BoardCall) :
    Stores (final (boardStep R) none calls) ((history (boardStep R) none calls).map (actOf R)) := by
  have run := simulationFinal (boardStep R) Stores (fun acts x => acts ++ [actOf R x])
    (fun db _ call old => storesServed old (effect R db call)) storesStart calls
  rwa [List.foldl_append_eq_append,List.nil_append,← List.flatMap_def,
    ← List.map_eq_flatMap] at run

theorem rowsLive (R : Readers) (calls : List BoardCall) (m : Row) :
    m ∈ (final (boardStep R) none calls).rows ↔ Live R (history (boardStep R) none calls) m := by
  have run := storesRun R calls
  rw [run.holds.values m,replayStanding run.once,liveStanding]

theorem rowsKeyed (db : Database) : (db.rows.map Row.id).Nodup ∧ ∀ r ∈ db.rows, 1 ≤ r.id := by
  cases db with
  | none => exact ⟨by simp [Database.rows],by simp [Database.rows]⟩
  | some t => exact ⟨t.key,fun r mem => (t.assigned r mem).1⟩

theorem unusableId {R : Readers} (law : R.Documented) {payload : Json}
    (missing : payload.unsignedMember? "id" = none) : postId R payload = 0 := by
  simp only [postId,law.notUnsigned 0 missing,Nat.zero_mod]

theorem removeKeeps (R : Readers) (o sess payload) (db : Database) :
    (removeMessage R o sess payload db).db = db ∨
    (removeMessage R o sess payload db).db = db.map fun t => t.delete (postId R payload) := by
  rcases removeAnswers R o sess payload db with ok | failed
  · obtain ⟨t,before,after⟩ := removeSucceeded ok
    exact Or.inr (by rw [after,before]; rfl)
  · exact Or.inl (removeFailed failed)

theorem removeZero {R : Readers} {payload : Json} (zero : postId R payload = 0) (o sess) (db : Database) :
    (removeMessage R o sess payload db).db = db := by
  rcases removeKeeps R o sess payload db with same | gone
  · exact same
  · rw [gone,zero]
    cases db with
    | none => rfl
    | some t => rw [Option.map_some,t.deleteZero]

theorem removeAgain {R : Readers} {o sess payload} {db : Database}
    (ok : (removeMessage R o sess payload db).answer = .bool true) (o' sess') {payload' : Json}
    (named : postId R payload' = postId R payload) :
    (removeMessage R o' sess' payload' (removeMessage R o sess payload db).db).db =
      (removeMessage R o sess payload db).db := by
  obtain ⟨t,_,after⟩ := removeSucceeded ok
  rcases removeKeeps R o' sess' payload' (removeMessage R o sess payload db).db with same | gone
  · exact same
  · rw [gone,after,Option.map_some,named,t.deleteTwice]

theorem removeOthers (R : Readers) (o sess payload) (db : Database) {r : Row}
    (other : r.id ≠ postId R payload) :
    r ∈ (removeMessage R o sess payload db).db.rows ↔ r ∈ db.rows := by
  rcases removeKeeps R o sess payload db with same | gone
  · rw [same]
  · rw [gone,deletedRows]
    exact and_iff_left other

theorem removeShrinks (R : Readers) (o sess payload) (db : Database) :
    (removeMessage R o sess payload db).db.rows.Sublist db.rows := by
  rcases removeKeeps R o sess payload db with same | gone
  · rw [same]
  · rw [gone]
    cases db with
    | none => exact List.Sublist.refl _
    | some t => exact List.filter_sublist

/-! What every call of a run shows. -/
structure ReadsBoard (R : Readers) (pre : List BoardServed) (answer : Json) : Prop where
  lists : ∃ rows : List Row, answer = listed (rows.map messageJson) ∧ rows.Nodup ∧
    (rows.map Row.id).Nodup ∧ ∀ m, m ∈ rows ↔ Live R pre m
  empty : (∀ m, ¬ Live R pre m) → answer = .null

structure Creates (R : Readers) (x : BoardServed) (sess : Session) (payload : Json) (o : Exec) : Prop where
  taken : x.answer = .bool true ↔ o.accepted = true ∧
    ∃ t, x.before = some t ∧ t.Takes o (R.asString payload "message" "") sess.authUser
  message : (R.asString payload "message" "").length ≤ 1024 →
    ∀ m, PostedBy R x m → m.message = R.asString payload "message" ""
  createdBy : sess.authUser.length ≤ 256 → ∀ m, PostedBy R x m → m.createdBy = sess.authUser

structure Removes (R : Readers) (x : BoardServed) (payload : Json) (o : Exec) : Prop where
  taken : x.answer = .bool true ↔ o.accepted = true ∧ x.before.isSome = true
  shrinks : x.after.rows.Sublist x.before.rows
  others : ∀ r, r.id ≠ postId R payload → (r ∈ x.after.rows ↔ r ∈ x.before.rows)
  unusable : payload.unsignedMember? "id" = none → x.after = x.before
  again : x.answer = .bool true → ∀ sess' payload' o', postId R payload' = postId R payload →
    (boardStep R x.after (.removeMessage sess' payload' o')).1 = x.after

structure OnBoard (R : Readers) (pre : List BoardServed) (x : BoardServed) : Prop where
  stored : ∀ m, m ∈ x.after.rows ↔ Live R (pre ++ [x]) m
  keyed : (x.after.rows.map Row.id).Nodup ∧ ∀ r ∈ x.after.rows, 1 ≤ r.id
  reads : ∀ sess payload, x.event = .getMessages sess payload .delivers → ReadsBoard R pre x.answer
  readKeeps : ∀ sess payload o, x.event = .getMessages sess payload o → x.after = x.before
  creates : ∀ sess payload o, x.event = .createMessage sess payload o → Creates R x sess payload o
  removes : ∀ sess payload o, x.event = .removeMessage sess payload o → Removes R x payload o
  refused : x.answer = .bool false → x.after = x.before
  restarts : ∀ config o, x.event = .restart config o → x.after.rows = x.before.rows

theorem readsBoard (R : Readers) (past : List BoardCall) :
    ReadsBoard R (history (boardStep R) none past)
      (getMessages .delivers (final (boardStep R) none past)).answer where
  lists := by
    have keyed := (rowsKeyed (final (boardStep R) none past)).1
    exact ⟨_,getMessagesAnswer .delivers _,keyed.of_map Row.id,keyed,rowsLive R past⟩
  empty none_ := by
    have rows : (final (boardStep R) none past).rows = [] :=
      List.eq_nil_iff_forall_not_mem.mpr fun m mem => none_ m ((rowsLive R past m).mp mem)
    rw [getMessagesAnswer,delivered,rows]
    rfl

theorem restartRows (config o) (db : Database) : (start config o db).db.rows = db.rows := by
  rcases startRows config o db with same | ⟨missing,made⟩
  · rw [same]
  · rw [made,missing]; rfl

theorem refusedKeeps (R : Readers) (db : Database) (call : BoardCall)
    (refused : (boardStep R db call).2 = .bool false) : (boardStep R db call).1 = db := by
  cases call with
  | createMessage sess payload o => exact createFailed refused
  | removeMessage sess payload o => exact removeFailed refused
  | getMessages sess payload o => rfl
  | restart config o => exact startFailed (Json.bool.inj refused)

theorem servedOnBoard {R : Readers} (law : R.Documented) (past : List BoardCall) (call : BoardCall) :
    OnBoard R (history (boardStep R) none past)
      (served (boardStep R) (final (boardStep R) none past) call) where
  stored m := by
    have rows := rowsLive R (past ++ [call]) m
    rwa [finalAppend,historyAppend] at rows
  keyed := rowsKeyed _
  reads := by
    intro sess payload event
    cases event
    exact readsBoard R past
  readKeeps := by
    intro sess payload o event
    cases event
    rfl
  creates := by
    intro sess payload o event
    cases event
    refine ⟨createTaken,fun short m posted => ?_,fun short m posted => ?_⟩
    · obtain ⟨_,_,_,event,_,rfl⟩ := posted
      cases event
      exact varcharShort short
    · obtain ⟨_,_,_,event,_,rfl⟩ := posted
      cases event
      exact varcharShort short
  removes := by
    intro sess payload o event
    cases event
    exact ⟨removeTaken,removeShrinks R o sess payload _,fun r => removeOthers R o sess payload _,
      fun missing => removeZero (unusableId law missing) o sess _,
      fun ok sess' payload' o' => removeAgain ok o' sess'⟩
  refused := refusedKeeps R _ call
  restarts := by
    intro config o event
    cases event
    exact restartRows config o _

theorem storeRefinesBoard {R : Readers} (law : R.Documented) {calls : List BoardCall}
    {pre post : List BoardServed} {x : BoardServed}
    (split : history (boardStep R) none calls = pre ++ x::post) : OnBoard R pre x := by
  obtain ⟨past,future,_,before,here,_⟩ := historySplit (boardStep R) split
  rw [before,here]
  exact servedOnBoard law past x.event

def firstCalls : List BoardCall :=
  [.restart ⟨"localhost","mantids",3306,"root",""⟩ ⟨true,true,⟨true,"",0,"",true⟩⟩,
   .createMessage ⟨"ana","1",["control"]⟩ (.object [("message",.string "hello")]) ⟨true,"",0,"t1",true⟩]

def firstListing : BoardCall := .getMessages ⟨"eva","2",["stats"]⟩ .null .delivers

theorem storeRefinesBoardThere :
    OnBoard Readers.plain (history (boardStep Readers.plain) none firstCalls)
      (served (boardStep Readers.plain) (final (boardStep Readers.plain) none firstCalls) firstListing) ∧
    (served (boardStep Readers.plain) (final (boardStep Readers.plain) none firstCalls) firstListing).answer =
      .array [messageJson ⟨1,"hello","ana","t1"⟩] := by
  have split : history (boardStep Readers.plain) none (firstCalls ++ [firstListing]) =
      history (boardStep Readers.plain) none firstCalls ++
        [served (boardStep Readers.plain) (final (boardStep Readers.plain) none firstCalls) firstListing] := rfl
  exact ⟨storeRefinesBoard Readers.plainDocumented split,rfl⟩

-- One blank more than the column holds.
def overflow (n : Nat) : String := String.ofList (List.replicate n 'a' ++ [' '])

theorem overflowBlank (n : Nat) : blankBeyond n (overflow n) = true := by
  rw [blankBeyond,overflow,String.toList_ofList,List.drop_left' List.length_replicate]
  rfl

theorem overflowLong (n : Nat) : (overflow n).length = n + 1 := by
  rw [overflow,String.length_ofList,List.length_append,List.length_replicate,List.length_singleton]

theorem overflowShortened (n : Nat) : varchar n (overflow n) ≠ overflow n := by
  intro whole
  have cut := varcharLength n (overflow n)
  rw [whole,overflowLong] at cut
  omega

def postThenList (user text : String) : List BoardCall :=
  firstCalls.take 1 ++
    [.createMessage ⟨user,"1",["control"]⟩ (.object [("message",.string text)]) ⟨true,"",0,"t1",true⟩,firstListing]

theorem postListed {user text : String} (takes : Posts.empty.Takes ⟨true,"",0,"t1",true⟩ text user) :
    (history (boardStep Readers.plain) none (postThenList user text)).map Served.answer =
      [.bool true,.bool true,.array [messageJson (newPost 1 ⟨true,"",0,"t1",true⟩ text user)]] := by
  have ok : (createMessage Readers.plain ⟨true,"",0,"t1",true⟩ ⟨user,"1",["control"]⟩
      (.object [("message",.string text)]) (some Posts.empty)).answer = .bool true :=
    createTaken.mpr ⟨rfl,Posts.empty,rfl,takes⟩
  obtain ⟨t,u,before,after,rows,_⟩ := createSucceeded ok
  cases before
  have listing := getMessagesAnswer .delivers (some u)
  rw [delivered,Database.rows,Option.map_some,Option.getD_some,rows] at listing
  change [_,(createMessage _ _ _ _ (some Posts.empty)).answer,
    (getMessages .delivers (createMessage _ _ _ _ (some Posts.empty)).db).answer] = _
  rw [ok,after,listing]
  rfl

theorem overflowCut :
    ∃ r, (history (boardStep Readers.plain) none (postThenList (overflow 256) (overflow 1024))).map Served.answer =
        [.bool true,.bool true,.array [messageJson r]] ∧
      r.message ≠ overflow 1024 ∧ r.createdBy ≠ overflow 256 :=
  ⟨_,postListed ⟨fun _ => ⟨overflowBlank 1024,overflowBlank 256⟩,by decide⟩,overflowShortened 1024,
    overflowShortened 256⟩

end HelloMantids
