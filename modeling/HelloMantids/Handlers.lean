import HelloMantids.Json
import HelloMantids.Posts

/-! The four database handlers and the start of the database. Each handler takes the
outcome of its SQL statement and returns its answer, its log lines and the table. -/
namespace HelloMantids

inductive Level where
  | info
  | warn
  | err
  | critical
  deriving DecidableEq, Repr

structure LogLine where
  func : String
  user : String
  level : Level
  format : String
  args : List String
  deriving DecidableEq, Repr

structure Session where
  authUser : String
  userID : String
  attribs : List String
  deriving DecidableEq, Repr

structure Handled where
  answer : Json
  log : List LogLine
  db : Database

def createMessage (R : Readers) (o : Exec) (sess : Session) (payload : Json) (db : Database) : Handled :=
  let message := R.asString payload "message" ""
  let adding : LogLine :=
    ⟨"createMessage","",.info,"User '%s' is adding message '%s'",[sess.authUser,message]⟩
  let result := query o db (.insertPost message sess.authUser)
  if !result.succeeded then
    ⟨.bool false,
      [adding,⟨"createMessage","",.err,"Can't add post message '%s': %s",[message,result.lastSQLError]⟩],
      result.db⟩
  else ⟨.bool true,[adding],result.db⟩

def postId (R : Readers) (payload : Json) : Nat := R.asUInt payload "id" 0 % 2^32

def removeMessage (R : Readers) (o : Exec) (sess : Session) (payload : Json) (db : Database) : Handled :=
  let removing : LogLine :=
    ⟨"removeMessage","",.info,"User '%s' is removing node '%u'",[sess.authUser,toString (postId R payload)]⟩
  let result := query o db (.deletePost (postId R payload))
  if !result.succeeded then
    ⟨.bool false,
      [removing,⟨"removeMessage","",.err,"Can't remove post '%u': %s",
        [toString (postId R payload),result.lastSQLError]⟩],
      result.db⟩
  else ⟨.bool true,[removing],result.db⟩

def getAdd1 (R : Readers) (payload : Json) (db : Database) : Handled :=
  let x := R.asUInt payload "value" 0 % 2^32
  ⟨.uint ((x + 1) % 2^32),[],db⟩

/-! The read loop: the query instance, the four bound variables it refills for every
row, the counter `j` and the elements of `ret`, null until the first is written. -/
structure Loop where
  query : QueryInstance
  bound : Bound
  j : Nat
  ret : List Json

def writeAt (ret : List Json) (j : Nat) (value : Json) : List Json :=
  if j < ret.length then ret.set j value
  else ret ++ List.replicate (j - ret.length) .null ++ [value]

def element (v : Bound) : Json :=
  .object [("id",.uint v.id),("message",.string v.message),("createdBy",.string v.createdBy),
    ("creationDate",.string v.creationDate)]

-- One test of the loop's condition and, if it holds, one run of its body.
def fetch (db : Database) (s : Loop) : Option Loop :=
  if s.query.resultsOK then
    (s.query.step db).map fun next =>
      ⟨next.1,next.2,s.j + 1,writeAt s.ret s.j (element next.2)⟩
  else none

def fetchLoop (db : Database) : Nat → Loop → Loop
  | 0,s => s
  | fuel+1,s => match fetch db s with
    | some next => fetchLoop db fuel next
    | none => s

def listed : List Json → Json
  | [] => .null
  | first::rest => .array (first::rest)

def Loop.opened (o : ReadOutcome) (db : Database) : Loop := ⟨qSelect o db,Bound.fresh,0,[]⟩

def getMessages (o : ReadOutcome) (db : Database) : Handled :=
  ⟨listed (fetchLoop db (db.rows.length + 1) (Loop.opened o db)).ret,[],db⟩

structure DBConfig where
  host : String
  dbName : String
  port : Nat
  user : String
  pass : String
  deriving DecidableEq, Repr

structure StartOutcome where
  connected : Bool
  listed : Bool
  create : Exec
  deriving DecidableEq, Repr

-- A lookup that fails reads as an absent table.
def dbTableExist (o : StartOutcome) (db : Database) : Bool := o.listed && db.isSome

def initSchema (o : StartOutcome) (db : Database) : Bool × Database :=
  if !dbTableExist o db then
    let result := query o.create db .createPosts
    if !result.succeeded then (false,result.db) else (true,result.db)
  else (true,db)

structure Started where
  returned : Bool
  statusOK : Bool
  log : List LogLine
  db : Database

def start (config : DBConfig) (o : StartOutcome) (db : Database) : Started :=
  if o.connected then
    let connected : LogLine :=
      ⟨"start","",.info,"Succesfully connected to MySQL Database server '%s' ",[config.host]⟩
    let schema := initSchema o db
    if !schema.1 then
      ⟨false,true,[connected,⟨"start","",.err,"Failed to initialize schema @ MySQL Database",[]⟩],schema.2⟩
    else ⟨true,true,[connected],schema.2⟩
  else
    ⟨false,false,[⟨"start","",.critical,"Failed to connect to the database: %s @%s:%u",
      [config.dbName,config.host,toString config.port]⟩],db⟩

/-! What each handler can do. -/
theorem createQuery (R o sess payload db) :
    let result := query o db (.insertPost (R.asString payload "message" "") sess.authUser)
    (createMessage R o sess payload db).answer = .bool result.succeeded ∧
      (createMessage R o sess payload db).db = result.db := by
  simp only [createMessage]
  cases (query o db (.insertPost (R.asString payload "message" "") sess.authUser)).succeeded <;> exact ⟨rfl,rfl⟩

theorem removeQuery (R o sess payload db) :
    let result := query o db (.deletePost (postId R payload))
    (removeMessage R o sess payload db).answer = .bool result.succeeded ∧
      (removeMessage R o sess payload db).db = result.db := by
  simp only [removeMessage]
  cases (query o db (.deletePost (postId R payload))).succeeded <;> exact ⟨rfl,rfl⟩

theorem createFailed {R o sess payload db}
    (failed : (createMessage R o sess payload db).answer = .bool false) :
    (createMessage R o sess payload db).db = db := by
  obtain ⟨answer,left⟩ := createQuery R o sess payload db
  rw [left]
  exact queryFailed (Json.bool.inj (answer.symm.trans failed))

theorem createSucceeded {R o sess payload db}
    (ok : (createMessage R o sess payload db).answer = .bool true) :
    ∃ t u, db = some t ∧ (createMessage R o sess payload db).db = some u ∧
      u.rows = t.rows ++ [newPost (t.auto + o.skip) o (R.asString payload "message" "") sess.authUser] ∧
      u.auto = t.auto + o.skip + 1 := by
  obtain ⟨answer,left⟩ := createQuery R o sess payload db
  rw [left]
  exact inserted (Json.bool.inj (answer.symm.trans ok))

theorem createTaken {R o sess payload db} :
    (createMessage R o sess payload db).answer = .bool true ↔
      o.accepted = true ∧ ∃ t, db = some t ∧ t.Takes o (R.asString payload "message" "") sess.authUser := by
  rw [(createQuery R o sess payload db).1,Json.bool.injEq,insertTaken]

theorem removeTaken {R o sess payload db} :
    (removeMessage R o sess payload db).answer = .bool true ↔ o.accepted = true ∧ db.isSome = true := by
  rw [(removeQuery R o sess payload db).1,Json.bool.injEq,deleteTaken]

theorem removeAccepted {o : Exec} (accepted : o.accepted = true) (R sess payload db) :
    (removeMessage R o sess payload db).db = db.map fun t => t.delete (postId R payload) := by
  rw [(removeQuery R o sess payload db).2]
  cases db <;> simp [query,accepted,Statement.apply]

theorem boolAnswers {j : Json} {b : Bool} (answer : j = .bool b) : j = .bool true ∨ j = .bool false := by
  cases b with
  | true => exact Or.inl answer
  | false => exact Or.inr answer

theorem createAnswers (R o sess payload db) :
    (createMessage R o sess payload db).answer = .bool true ∨
    (createMessage R o sess payload db).answer = .bool false :=
  boolAnswers (createQuery R o sess payload db).1

theorem removeFailed {R o sess payload db}
    (failed : (removeMessage R o sess payload db).answer = .bool false) :
    (removeMessage R o sess payload db).db = db := by
  obtain ⟨answer,left⟩ := removeQuery R o sess payload db
  rw [left]
  exact queryFailed (Json.bool.inj (answer.symm.trans failed))

theorem removeSucceeded {R o sess payload db}
    (ok : (removeMessage R o sess payload db).answer = .bool true) :
    ∃ t, db = some t ∧ (removeMessage R o sess payload db).db = some (t.delete (postId R payload)) := by
  obtain ⟨answer,left⟩ := removeQuery R o sess payload db
  rw [left]
  exact deleted (Json.bool.inj (answer.symm.trans ok))

theorem removeAnswers (R o sess payload db) :
    (removeMessage R o sess payload db).answer = .bool true ∨
    (removeMessage R o sess payload db).answer = .bool false :=
  boolAnswers (removeQuery R o sess payload db).1

theorem startRows (config o db) :
    (start config o db).db = db ∨ (db = none ∧ (start config o db).db = some Posts.empty) := by
  have schema : (initSchema o db).2 = db ∨ (db = none ∧ (initSchema o db).2 = some Posts.empty) := by
    simp only [initSchema]
    split
    · split
      · rename_i refused; exact Or.inl (queryFailed (by simpa using refused))
      · rename_i taken; exact Or.inr (created (by simpa using taken))
    · exact Or.inl rfl
  simp only [start]
  split
  · split
    · exact schema
    · exact schema
  · exact Or.inl rfl

theorem startFailed {config o db} (failed : (start config o db).returned = false) :
    (start config o db).db = db := by
  by_cases connected : o.connected = true
  · by_cases found : dbTableExist o db = true
    · simp [start,initSchema,connected,found]
    · cases taken : (query o.create db .createPosts).succeeded with
      | true => simp [start,initSchema,connected,found,taken] at failed
      | false => simpa [start,initSchema,connected,found,taken] using queryFailed taken
  · simp [start,connected]

/-! The read loop delivers a prefix of the rows. -/
def reachable (q : QueryInstance) (db : Database) : List Row :=
  match q.breaksAt with
  | none => db.rows
  | some k => db.rows.take k

def Unbroken (q : QueryInstance) : Prop := ∀ k, q.breaksAt = some k → q.position ≤ k

theorem stepReachable {q : QueryInstance} (unbroken : Unbroken q) (db : Database) :
    q.step db = ((reachable q db)[q.position]?).map fun r => (q.advance,Bound.load r) := by
  unfold QueryInstance.step reachable
  cases found : q.breaksAt with
  | none => simp
  | some k =>
    have below := unbroken k found
    by_cases here : k = q.position
    · rw [if_pos (by rw [here]),List.getElem?_eq_none (by rw [here]; exact List.length_take_le _ _)]
      rfl
    · rw [if_neg (by simpa using here),List.getElem?_take_of_lt (by omega)]

theorem unbrokenAdvance {q : QueryInstance} (unbroken : Unbroken q) {db : Database}
    (inside : q.position < (reachable q db).length) : Unbroken q.advance := by
  intro k breaks
  have here : q.breaksAt = some k := breaks
  have below := unbroken k here
  -- a row at the break is out of reach
  have cut : (reachable q db).length ≤ k := by
    simp only [reachable,here]; exact List.length_take_le _ _
  change q.position + 1 ≤ k
  omega

theorem writeAtEnd (ret : List Json) (value : Json) : writeAt ret ret.length value = ret ++ [value] := by
  simp [writeAt]

structure Loop.Sound (s : Loop) : Prop where
  unbroken : Unbroken s.query
  counted : s.j = s.ret.length

-- What the loop has written and will still write.
def Loop.yields (db : Database) (s : Loop) : List Json :=
  if s.query.resultsOK then
    s.ret ++ ((reachable s.query db).drop s.query.position).map (fun r => element (Bound.load r))
  else s.ret

theorem fetchNone {db : Database} {s : Loop} (sound : s.Sound) (ended : fetch db s = none) :
    s.yields db = s.ret := by
  unfold fetch at ended
  unfold Loop.yields
  split at ended
  · rename_i ok
    rw [stepReachable sound.unbroken,Option.map_map,Option.map_eq_none_iff,List.getElem?_eq_none_iff] at ended
    rw [if_pos ok,List.drop_eq_nil_of_le ended,List.map_nil,List.append_nil]
  · rename_i failed
    rw [if_neg failed]

/- One row: the instance moves on, its variables are refilled and the row is written
at `j`, so that what is written and what is still to come stay the same list. -/
theorem fetchSome {db : Database} {s t : Loop} (sound : s.Sound) (row : fetch db s = some t) :
    t.Sound ∧ t.yields db = s.yields db ∧ t.query.position = s.query.position + 1 ∧
      s.query.position < (reachable s.query db).length ∧ reachable t.query db = reachable s.query db := by
  unfold fetch at row
  split at row <;> try contradiction
  rename_i ok
  rw [stepReachable sound.unbroken,Option.map_map,Option.map_eq_some_iff] at row
  obtain ⟨r,found,rfl⟩ := row
  obtain ⟨inside,value⟩ := List.getElem?_eq_some_iff.mp found
  refine ⟨⟨unbrokenAdvance sound.unbroken inside,?_⟩,?_,rfl,inside,rfl⟩
  · simp [sound.counted,writeAtEnd]
  · have still : s.query.advance.resultsOK = true := ok
    simp only [Loop.yields,ok,still,if_true,Function.comp_apply,sound.counted,writeAtEnd]
    rw [List.drop_eq_getElem_cons inside,value,List.map_cons,List.append_assoc,List.singleton_append]
    rfl

theorem fetchLoopYields {db : Database} {fuel : Nat} {s : Loop} (sound : s.Sound)
    (enough : (reachable s.query db).length < s.query.position + fuel) :
    fetch db (fetchLoop db fuel s) = none ∧ (fetchLoop db fuel s).ret = s.yields db := by
  induction fuel generalizing s with
  | zero =>
    have ended : fetch db s = none := by
      cases row : fetch db s with
      | none => rfl
      | some t => have inside := (fetchSome sound row).2.2.2.1; omega
    exact ⟨ended,(fetchNone sound ended).symm⟩
  | succ fuel ih =>
    cases row : fetch db s with
    | none => simpa only [fetchLoop,row,true_and] using (fetchNone sound row).symm
    | some t =>
      obtain ⟨next,same,moved,inside,reach⟩ := fetchSome sound row
      simp only [fetchLoop,row,← same]
      exact ih next (by rw [reach,moved]; omega)

theorem openedSound (o : ReadOutcome) (db : Database) : (Loop.opened o db).Sound := by
  refine ⟨?_,rfl⟩
  intro k breaks
  cases db <;> cases o <;> simp [Loop.opened,qSelect]

theorem openedYields (o : ReadOutcome) (db : Database) :
    (Loop.opened o db).yields db = (delivered o db).map (fun r => element (Bound.load r)) := by
  cases db with
  | none => cases o <;> simp [Loop.yields,Loop.opened,qSelect,delivered,Database.rows]
  | some t => cases o <;> simp [Loop.yields,Loop.opened,qSelect,reachable,delivered]

theorem openedReachable (o : ReadOutcome) (db : Database) :
    (reachable (Loop.opened o db).query db).length ≤ db.rows.length := by
  unfold reachable
  split
  · exact Nat.le_refl _
  · exact List.length_take_le' _ _

theorem openedLoop (o : ReadOutcome) (db : Database) :
    fetch db (fetchLoop db (db.rows.length + 1) (Loop.opened o db)) = none ∧
    (fetchLoop db (db.rows.length + 1) (Loop.opened o db)).ret =
      (delivered o db).map (fun r => element (Bound.load r)) := by
  have enough := openedReachable o db
  have position : (Loop.opened o db).query.position = 0 := by cases db <;> cases o <;> rfl
  rw [← openedYields]
  exact fetchLoopYields (openedSound o db) (by omega)

def messageJson (r : Row) : Json :=
  .object [("id",.uint r.id),("message",.string r.message),("createdBy",.string r.createdBy),
    ("creationDate",.string r.creationDate)]

theorem elementLoad {db : Database} {r : Row} (mem : r ∈ db.rows) :
    element (Bound.load r) = messageJson r := by
  cases db with
  | none => simp [Database.rows] at mem
  | some t =>
    have small := (t.assigned r mem).2.2
    have fits : r.id % 2^32 = r.id := Nat.mod_eq_of_lt (by unfold maxInteger at small; omega)
    simp only [element,Bound.load,messageJson,fits]

theorem deliveredRows {o : ReadOutcome} {db : Database} {r : Row} (mem : r ∈ delivered o db) : r ∈ db.rows := by
  cases o with
  | selectFails => simp [delivered] at mem
  | fetchFails k => exact List.mem_of_mem_take mem
  | delivers => exact mem

theorem getMessagesAnswer (o : ReadOutcome) (db : Database) :
    (getMessages o db).answer = listed ((delivered o db).map messageJson) := by
  simp only [getMessages,(openedLoop o db).2]
  congr 1
  exact List.map_congr_left fun r mem => elementLoad (deliveredRows mem)

end HelloMantids
