import HelloMantids.Boot
import HelloMantids.WebEntry

/-! What any start-up keeps, whatever the configuration and whatever files, database,
login server and network answer: no global is used before it is set, and nobody is let
in before everything that serves them is there. -/
namespace HelloMantids
open Scripts

structure WebServer where
  rpcLog : Bool
  documentRoot : Bool
  domains : List String
  methods : List (String × List String)
  elements : List (String × String)

/-- The process and its surroundings: `attribs` are those the login server knows, `log`
holds the lines of both logs, the last one first. -/
structure Process where
  localConfig : Option LocalIni
  appLog : Bool
  rpcLog : Bool
  agentMethods : Option (List String)
  acceptor : List AcceptorSetting
  keys : List (Listener × KeyPart)
  listening : List Listener
  domains : List String
  entries : List (String × List String)
  web : Option WebServer
  staticContent : List Json
  log : List LogLine
  statusOK : Bool
  db : Database
  attribs : List (String × String)
  acceptsAgents : Bool
  acceptsWeb : Bool

def Process.fresh (db : Database) (attribs : List (String × String)) : Process :=
  ⟨none,false,false,none,[],[],[],[],[],none,[],[],false,db,attribs,false,false⟩

def answers (s : Process) : {ρ : Type} → Op ρ → ρ → Prop
  | _,.dbTableExist,r => r = true → s.db.isSome = true
  | _,.createPosts,r => r = true → s.db = none
  | _,.attribExist app attrib,r => r = true → (app,attrib) ∈ s.attribs
  | _,_,_ => True

def after (s : Process) : {ρ : Type} → Op ρ → ρ → Process
  | _,.setLocalInitConfig config,_ => {s with localConfig := some config}
  | _,.setAppLog _,_ => {s with appLog := true}
  | _,.setRPCLog _,_ => {s with rpcLog := true}
  | _,.initLog line,_ => {s with log := line::s.log}
  | _,.log line,_ => {s with log := line::s.log}
  | _,.connect _,r => {s with statusOK := r}
  | _,.createPosts,r => if r then {s with db := some Posts.empty} else s
  | _,.loadKey listener part _,r => if r then {s with keys := (listener,part)::s.keys} else s
  | _,.setFastRPC,_ => {s with agentMethods := some []}
  | _,.addMethod name,_ => {s with agentMethods := s.agentMethods.map (· ++ [name])}
  | _,.acceptorSet setting,_ => {s with acceptor := setting::s.acceptor}
  | _,.listenOn listener _ _ _,r => if r = none then {s with listening := listener::s.listening} else s
  | _,.startThreaded,_ => {s with acceptsAgents := true}
  | _,.attribAdd app attrib _,r => if r then {s with attribs := (app,attrib)::s.attribs} else s
  | _,.addDomain name,_ => {s with domains := name::s.domains}
  | _,.newMethodsManager _,_ => {s with entries := []}
  | _,.addRPCMethod name attribs,_ => {s with entries := s.entries ++ [(name,attribs)]}
  | _,.setWebServer,_ => {s with web := some ⟨false,false,[],[],[]⟩}
  | _,.setWebRPCLog,_ => {s with web := s.web.map fun w => {w with rpcLog := true}}
  | _,.setDocumentRootPath _,r => {s with web := s.web.map fun w => {w with documentRoot := r}}
  | _,.setAuthenticator,_ => {s with web := s.web.map fun w => {w with domains := s.domains}}
  | _,.setMethodManagers,_ => {s with web := s.web.map fun w => {w with methods := s.entries}}
  | _,.acceptPoolThreaded,_ => {s with acceptsWeb := true}
  | _,.getStaticContent,r => {s with staticContent := r}
  | _,.addInternalContentElement path content,_ =>
      {s with web := s.web.map fun w => {w with elements := w.elements ++ [(path,content)]}}
  | _,_,_ => s

def surroundings : Surroundings Op Process where
  answers s op r := answers s op r
  after s op r := after s op r

structure AgentsReady (s : Process) : Prop where
  configured : s.localConfig.isSome = true
  appLog : s.appLog = true
  methods : s.agentMethods = some ["getHelloWorldMessage","_pingNotFound_"]
  keys : ∀ part, (Listener.rpc,part) ∈ s.keys
  callback : .callbackOnConnect ∈ s.acceptor
  socket : .acceptorSocket ∈ s.acceptor ∧ .rpc ∈ s.listening

structure WebReady (s : Process) : Prop where
  logs : s.appLog = true ∧ s.rpcLog = true
  fastRPC : s.agentMethods.isSome = true
  database : s.statusOK = true ∧ s.db.isSome = true
  attribs : ∃ ini, s.localConfig = some ini ∧ (Config.loginRPCAppName ini,"control") ∈ s.attribs ∧
    (Config.loginRPCAppName ini,"stats") ∈ s.attribs
  keys : (Listener.web,.publicKey) ∈ s.keys ∧ (Listener.web,.privateKey) ∈ s.keys
  socket : .web ∈ s.listening
  server : ∃ w, s.web = some w ∧ w.rpcLog = true ∧ w.documentRoot = true ∧ "" ∈ w.domains ∧
    w.methods = [("remote.stats",["stats"]),("remote.control",["control"])]

def Serving (s : Process) : Prop := s.acceptsAgents = true ∧ s.acceptsWeb = true

def Closed (s : Process) : Prop := s.acceptsAgents = false ∧ s.acceptsWeb = false

def Shut (s : Process) : Listener → Prop
  | .rpc => s.acceptsAgents = false
  | .web => s.acceptsWeb = false

/-- The globals a request dereferences are set, what is shared with those let in is not
set again, and a listener lets in to a ready process only. -/
def allowed (s : Process) : {ρ : Type} → Op ρ → Prop
  | _,.setLocalInitConfig _ => Closed s
  | _,.setAppLog _ => Closed s
  | _,.setRPCLog _ => Closed s
  | _,.appLogSet _ => s.appLog = true ∧ Closed s
  | _,.rpcLogSet _ => s.rpcLog = true ∧ Closed s
  | _,.log _ => s.appLog = true
  | _,.loginSet _ => Closed s
  | _,.loginStart => s.appLog = true ∧ Closed s
  | _,.connect _ => Closed s
  | _,.dbTableExist => Closed s
  | _,.createPosts => Closed s
  | _,.setSecurityLevel listener _ => Shut s listener
  | _,.loadKey listener _ _ => Shut s listener
  | _,.setFastRPC => Closed s
  | _,.addMethod _ => s.agentMethods.isSome = true ∧ Closed s
  | _,.acceptorSet _ => s.acceptsAgents = false
  | _,.listenOn listener _ _ _ => Shut s listener
  | _,.startThreaded => AgentsReady s
  | _,.attribAdd _ _ _ => s.acceptsWeb = false
  | _,.addDomain _ => s.acceptsWeb = false
  | _,.newMethodsManager _ => s.acceptsWeb = false
  | _,.addRPCMethod _ _ => s.acceptsWeb = false
  | _,.setWebServer => s.acceptsWeb = false
  | _,.setWebRPCLog => (s.web.isSome = true ∧ s.rpcLog = true) ∧ s.acceptsWeb = false
  | _,.setDocumentRootPath _ => s.web.isSome = true ∧ s.acceptsWeb = false
  | _,.setAuthenticator => s.web.isSome = true ∧ s.acceptsWeb = false
  | _,.setMethodManagers => s.web.isSome = true ∧ s.acceptsWeb = false
  | _,.setSoftwareVersion => s.web.isSome = true ∧ s.acceptsWeb = false
  | _,.setExtCallBackOnInitFailed => s.web.isSome = true ∧ s.acceptsWeb = false
  | _,.acceptPoolThreaded => WebReady s
  | _,.addInternalContentElement _ _ => s.web.isSome = true
  | _,_ => True

/-! Nobody is let in to a process that is not ready, or that stops being so. -/
structure Grows (s t : Process) : Prop where
  config : t.localConfig = s.localConfig
  logs : t.appLog = s.appLog ∧ t.rpcLog = s.rpcLog
  methods : t.agentMethods = s.agentMethods
  acceptor : s.acceptor ⊆ t.acceptor
  keys : s.keys ⊆ t.keys
  listening : s.listening ⊆ t.listening
  attribs : s.attribs ⊆ t.attribs
  database : t.statusOK = s.statusOK ∧ (s.db.isSome = true → t.db.isSome = true)

theorem agentsGrow {s t : Process} (ready : AgentsReady s) (grows : Grows s t) : AgentsReady t where
  configured := by rw [grows.config]; exact ready.configured
  appLog := by rw [grows.logs.1]; exact ready.appLog
  methods := by rw [grows.methods]; exact ready.methods
  keys part := grows.keys (ready.keys part)
  callback := grows.acceptor ready.callback
  socket := ⟨grows.acceptor ready.socket.1,grows.listening ready.socket.2⟩

theorem webGrow {s t : Process} (ready : WebReady s) (grows : Grows s t)
    (same : ∀ w, s.web = some w → ∃ elements, t.web = some {w with elements := elements}) : WebReady t where
  logs := by rw [grows.logs.1,grows.logs.2]; exact ready.logs
  fastRPC := by rw [grows.methods]; exact ready.fastRPC
  database := ⟨grows.database.1.trans ready.database.1,grows.database.2 ready.database.2⟩
  attribs := by
    obtain ⟨ini,config,control,stats⟩ := ready.attribs
    exact ⟨ini,grows.config.trans config,grows.attribs control,grows.attribs stats⟩
  keys := ⟨grows.keys ready.keys.1,grows.keys ready.keys.2⟩
  socket := grows.listening ready.socket
  server := by
    obtain ⟨w,found,logs,root,auth,methods⟩ := ready.server
    obtain ⟨elements,next⟩ := same w found
    exact ⟨_,next,logs,root,auth,methods⟩

structure OpenReady (s : Process) : Prop where
  agents : s.acceptsAgents = true → AgentsReady s
  web : s.acceptsWeb = true → WebReady s

theorem closedReady {s : Process} (closed : Closed s) : OpenReady s :=
  ⟨fun open_ => by simp [closed.1] at open_,fun open_ => by simp [closed.2] at open_⟩

theorem openGrow {s t : Process} (ready : OpenReady s) (grows : Grows s t)
    (agents : t.acceptsAgents = s.acceptsAgents) (web : t.acceptsWeb = s.acceptsWeb)
    (server : t.web = s.web) : OpenReady t where
  agents open_ := agentsGrow (ready.agents (agents ▸ open_)) grows
  web open_ := webGrow (ready.web (web ▸ open_)) grows fun w found => ⟨w.elements,server.trans found⟩

theorem setupGrow {s t : Process} (ready : OpenReady s) (grows : Grows s t)
    (agents : t.acceptsAgents = s.acceptsAgents) (shut : t.acceptsWeb = false) : OpenReady t where
  agents open_ := agentsGrow (ready.agents (agents ▸ open_)) grows
  web open_ := by simp [shut] at open_

theorem growsSame (s : Process) : Grows s s :=
  ⟨rfl,⟨rfl,rfl⟩,rfl,List.Subset.refl _,List.Subset.refl _,List.Subset.refl _,List.Subset.refl _,rfl,id⟩

theorem afterGrows (s : Process) {ρ : Type} (op : Op ρ) (r : ρ) (can : allowed s op) :
    Closed (after s op r) ∨ Grows s (after s op r) := by
  have same := growsSame s
  cases op with
  | setLocalInitConfig config => exact Or.inl can
  | setAppLog syslog => exact Or.inl can
  | setRPCLog syslog => exact Or.inl can
  | connect config => exact Or.inl can
  | setFastRPC => exact Or.inl can
  | addMethod name => exact Or.inl can.2
  | createPosts =>
    cases r with
    | false => exact Or.inr same
    | true => exact Or.inr {same with database := ⟨rfl,fun _ => rfl⟩}
  | loadKey listener part path =>
    cases r with
    | false => exact Or.inr same
    | true => exact Or.inr {same with keys := List.subset_cons_self _ _}
  | acceptorSet setting => exact Or.inr {same with acceptor := List.subset_cons_self _ _}
  | listenOn listener port addr ipv4 =>
    cases r with
    | some error => exact Or.inr same
    | none => exact Or.inr {same with listening := List.subset_cons_self _ _}
  | attribAdd app attrib description =>
    cases r with
    | false => exact Or.inr same
    | true => exact Or.inr {same with attribs := List.subset_cons_self _ _}
  | _ => exact Or.inr {same with}

theorem openReadyKept (s : Process) {ρ : Type} (op : Op ρ) (r : ρ) (can : allowed s op) (_ : answers s op r)
    (ready : OpenReady s) : OpenReady (after s op r) := by
  rcases afterGrows s op r can with closed | grows
  · exact closedReady closed
  cases op with
  | startThreaded =>
    exact ⟨fun _ => agentsGrow can grows,fun open_ => webGrow (ready.web open_) grows fun w found => ⟨w.elements,found⟩⟩
  | acceptPoolThreaded =>
    exact ⟨fun open_ => agentsGrow (ready.agents open_) grows,fun _ => webGrow can grows fun w found => ⟨w.elements,found⟩⟩
  | addInternalContentElement path content =>
    refine ⟨fun open_ => agentsGrow (ready.agents open_) grows,fun open_ => webGrow (ready.web open_) grows fun w found =>
      ⟨w.elements ++ [(path,content)],?_⟩⟩
    simp only [after,found,Option.map_some]
  | setWebServer => exact setupGrow ready grows rfl can
  | setWebRPCLog => exact setupGrow ready grows rfl can.2
  | setDocumentRootPath path => exact setupGrow ready grows rfl can.2
  | setAuthenticator => exact setupGrow ready grows rfl can.2
  | setMethodManagers => exact setupGrow ready grows rfl can.2
  | createPosts => cases r <;> exact openGrow ready grows rfl rfl rfl
  | loadKey listener part path => cases r <;> exact openGrow ready grows rfl rfl rfl
  | listenOn listener port addr ipv4 => cases r <;> exact openGrow ready grows rfl rfl rfl
  | attribAdd app attrib description => cases r <;> exact openGrow ready grows rfl rfl rfl
  | _ => exact openGrow ready grows rfl rfl rfl

/-! The parts of the start-up, in the order of the source, each with what it leaves. -/
abbrev BootSafe {α : Type} (s : Process) (m : Boot α) (post : α → Process → Prop) (fail : Stop → Process → Prop) :
    Prop := Safe surroundings allowed s post fail m

def GivesReason (s : Process) : Prop :=
  ∃ line earlier, s.log = line::earlier ∧ (line.level = .err ∨ line.level = .critical)

structure Logged (ini : LocalIni) (s : Process) : Prop where
  config : s.localConfig = some ini
  logs : s.appLog = true ∧ s.rpcLog = true

structure Configured (ini : LocalIni) (s : Process) : Prop extends Logged ini s where
  database : s.statusOK = true ∧ s.db.isSome = true

structure ReadStage (s : Process) (ok : Bool) (t : Process) : Prop where
  same : t = {s with log := t.log}
  reason : ok = false → GivesReason t

structure SchemaStage (s : Process) (ok : Bool) (t : Process) : Prop where
  same : t = {s with db := t.db}
  there : ok = true → t.db.isSome = true
  agrees : ∃ o, initSchema o s.db = (ok,t.db)

structure Given (V : Translators) (ini : LocalIni) (config : DBConfig) : Prop where
  host : Config.databaseHost? ini = some config.host
  user : Config.databaseDbUser? ini = some config.user
  pass : Config.databaseDbPass? ini = some config.pass
  dbName : config.dbName = Config.databaseDbName ini
  port : config.port = Config.databasePort V ini

/- The database part does what `start` does, for one of its outcomes. -/
structure Agrees (config : DBConfig) (s : Process) (ok : Bool) (t : Process) (o : StartOutcome) : Prop where
  returned : (start config o s.db).returned = ok
  statusOK : (start config o s.db).statusOK = t.statusOK
  db : (start config o s.db).db = t.db
  log : t.log = (start config o s.db).log.reverse ++ s.log

structure DatabaseStage (V : Translators) (ini : LocalIni) (s : Process) (ok : Bool) (t : Process) : Prop where
  closed : Closed t
  ready : ok = true → Configured ini t
  reason : ok = false → GivesReason t
  agrees : ∃ config o, Given V ini config ∧ Agrees config s ok t o

def Restarted (V : Translators) (ini : LocalIni) (db left : Database) : Prop :=
  ∃ config o, Given V ini config ∧ (start config o db).returned = true ∧ (start config o db).db = left

structure ConfigStage (V : Translators) (s : Process) (found : Option LocalIni) (t : Process) : Prop where
  closed : Closed t
  ready : ∀ ini, found = some ini → Configured ini t ∧ Restarted V ini s.db t.db
  reason : found = none → GivesReason t

structure RPCStage (ini : LocalIni) (s : Process) (ok : Bool) (t : Process) : Prop where
  same : t.db = s.db
  agents : t.acceptsAgents = ok
  web : t.acceptsWeb = false
  ready : ok = true → Configured ini t ∧ t.agentMethods.isSome = true
  reason : ok = false → GivesReason t

structure AttribStage (s : Process) (app attrib : String) (ok : Bool) (t : Process) : Prop where
  same : t = {s with attribs := t.attribs,log := t.log}
  more : s.attribs ⊆ t.attribs
  there : ok = true → (app,attrib) ∈ t.attribs
  reason : ok = false → GivesReason t

structure WebStage (s : Process) (ok : Bool) (t : Process) : Prop where
  same : t.localConfig = s.localConfig ∧ t.db = s.db
  agents : t.acceptsAgents = true
  web : t.acceptsWeb = ok
  usable : ok = true → t.appLog = true ∧ ∃ w, t.web = some w ∧ w.elements = []
  reason : ok = false → GivesReason t

section Parts
variable {fail : Stop → Process → Prop} {s : Process} (R : Readers) (V : Translators) {ini : LocalIni}

def StaticServed (t : Process) : Prop :=
  ∃ w, t.web = some w ∧ w.elements = (loadStatic R 0 t.staticContent).elements

-- How a start-up that does not finish leaves the listeners, and what it gives as reason.
def Ended : Stop → Process → Prop
  | .exited code,s =>
      GivesReason s ∧ ((code = -2 ∧ Closed s) ∨ (code = -1 ∧ s.acceptsAgents = true ∧ s.acceptsWeb = false))
  | .fault fault,s => Serving s ∧ StaticServed R s ∧
      (loadStatic R 0 s.staticContent).fault = some fault
  | .badIni,s => Closed s
  | .missing path,s => Closed s ∧ ∃ ini, s.localConfig = some ini ∧ ini.get? path = none
  | .refused,s => Closed s ∧ GivesReason s

@[simp] theorem surroundingsAnswers {ρ : Type} (op : Op ρ) (r : ρ) :
    surroundings.answers s op r = answers s op r := rfl

@[simp] theorem surroundingsAfter {ρ : Type} (op : Op ρ) (r : ρ) : surroundings.after s op r = after s op r := rfl

@[simp] theorem orFailFalse (line : LogLine) (rest : Boot Bool) :
    orFail false line rest = (do perform (.log line); pure false) := rfl

@[simp] theorem orFailTrue (line : LogLine) (rest : Boot Bool) : orFail true line rest = rest := rfl

theorem critical {line : LogLine} {earlier : List LogLine} (top : s.log = line::earlier) (level : line.level = .critical) :
    GivesReason s := ⟨line,earlier,top,Or.inr level⟩

theorem notOk {P : Prop} (ok : false = true) : P := absurd ok Bool.false_ne_true

theorem notFailed {P : Prop} (failed : true = false) : P := absurd failed.symm Bool.false_ne_true

/-! The configuration and the database. -/
theorem fixModeSafe (file : String) : BootSafe s (Main.fixMode file) (ReadStage s) fail := by
  refine safeRequest.2 ⟨trivial,fun mode _ => ?_⟩
  split
  · simp only [safeRequest,safeDone,surroundingsAnswers,surroundingsAfter,allowed,after,answers,Bool.forall_bool,
      Bool.not_false,Bool.not_true,Bool.false_eq_true,if_false,if_true,forall_const,true_and]
    exact ⟨⟨rfl,fun _ => critical rfl rfl⟩,rfl,notFailed⟩
  · exact ⟨rfl,notFailed⟩

theorem loadIniSafe (file : String) (closed : Closed s) :
    BootSafe s (Main.loadIni file) (fun found => ReadStage s found.isSome) (Ended R) := by
  refine safeBind (fixModeSafe file) fun fixed t read => ?_
  cases fixed with
  | false => exact ⟨read.same,fun _ => read.reason rfl⟩
  | true =>
    refine safeRequest.2 ⟨trivial,fun ini _ => ?_⟩
    cases ini with
    | some ini => exact ⟨read.same,notFailed⟩
    | none =>
      have same := read.same
      generalize t.log = lines at same
      subst same
      exact closed

theorem readConfigSafe (configDir : String) (closed : Closed s) :
    BootSafe s (Main.readConfig configDir) (fun found => ReadStage s found.isSome) (Ended R) := by
  simp only [Main.readConfig,safeRequest,safeDone,surroundingsAnswers,surroundingsAfter,allowed,after,answers,
    Bool.forall_bool,Bool.false_eq_true,Bool.not_true,Bool.not_false,if_false,if_true,forall_const,true_and]
  refine ⟨⟨rfl,fun _ => critical rfl rfl⟩,⟨rfl,fun _ => critical rfl rfl⟩,?_⟩
  exact safeWeaken (loadIniSafe R _ closed) (fun _ _ read => ⟨read.same,read.reason⟩) fun _ _ ended => ended

theorem setAppLogsSafe (config : s.localConfig = some ini) (closed : Closed s) :
    BootSafe s (Main.setAppLogs V ini) (fun _ t => Logged ini t ∧ Closed t ∧ t.db = s.db) fail := by
  simp only [Main.setAppLogs,safeRequest,safeLast,surroundingsAnswers,surroundingsAfter,allowed,after,answers,forall_const,
    Closed,closed.1,closed.2,true_and,and_true]
  exact ⟨config,rfl,rfl⟩

theorem setLoginSafe (closed : Closed s) : BootSafe s (Main.setLogin V ini) (fun _ t => t = s) fail := by
  simp only [Main.setLogin,safeRequest,safeLast,surroundingsAnswers,surroundingsAfter,allowed,after,answers,forall_const,
    closed,true_and]

theorem initSchemaSafe (closed : Closed s) : BootSafe s initSchemaScript (SchemaStage s) fail := by
  refine ⟨closed,fun found table => ?_⟩
  cases found with
  | true => exact ⟨rfl,table,⟨true,true,⟨true,"",0,"",true⟩⟩,by simp [initSchema,dbTableExist,after,table rfl]⟩
  | false =>
    refine ⟨closed,fun made fresh => ?_⟩
    cases made with
    | true =>
      have empty : s.db = none := fresh rfl
      refine ⟨rfl,fun _ => rfl,⟨true,false,⟨true,"",0,"",true⟩⟩,?_⟩
      simp [initSchema,dbTableExist,query,Statement.apply,empty,after]
    | false =>
      refine ⟨rfl,notOk,⟨true,false,⟨false,"",0,"",true⟩⟩,?_⟩
      simp [initSchema,dbTableExist,query,after]

@[simp] theorem requiredSome {α : Type} (path value : String) (f : String → Boot α) :
    (required path (some value) >>= f) = f value := rfl

theorem startScriptSafe (logged : Logged ini s) (closed : Closed s) :
    BootSafe s (startScript V ini) (DatabaseStage V ini s) (Ended R) := by
  have log := logged.logs.1
  unfold startScript
  cases givenHost : Config.databaseHost? ini with
  | none => exact ⟨closed,ini,logged.config,givenHost⟩
  | some host =>
  cases givenUser : Config.databaseDbUser? ini with
  | none => exact ⟨closed,ini,logged.config,givenUser⟩
  | some user =>
  cases givenPass : Config.databaseDbPass? ini with
  | none => exact ⟨closed,ini,logged.config,givenPass⟩
  | some pass =>
  simp only [requiredSome,safeRequest,surroundingsAnswers,surroundingsAfter,allowed,after,answers,Bool.forall_bool,
    Bool.false_eq_true,if_false,if_true,forall_const,safeDone]
  have given : Given V ini ⟨host,Config.databaseDbName ini,Config.databasePort V ini,user,pass⟩ :=
    ⟨givenHost,givenUser,givenPass,rfl,rfl⟩
  refine ⟨closed,⟨log,closed,notOk,fun _ => critical rfl rfl,_,⟨false,true,⟨true,"",0,"",true⟩⟩,given,?_⟩,log,
    safeBind (initSchemaSafe closed) fun schema t made => ?_⟩
  · exact ⟨rfl,rfl,rfl,rfl⟩
  obtain ⟨same,there,o,agrees⟩ := made
  generalize t.db = db at same there agrees
  subst same
  cases schema with
  | true =>
    refine ⟨closed,fun _ => ⟨⟨logged.config,logged.logs⟩,rfl,there rfl⟩,notFailed,_,{o with connected := true},given,?_⟩
    have same : initSchema {o with connected := true} s.db = (true,db) := agrees
    constructor <;> simp [start,same]
  | false =>
    refine ⟨log,fun _ _ => ⟨closed,notOk,fun _ => ⟨_,_,rfl,Or.inl rfl⟩,_,{o with connected := true},given,?_⟩⟩
    have same : initSchema {o with connected := true} s.db = (false,db) := agrees
    constructor <;> simp [start,same,after]

theorem configSafe (args : Invocation) (closed : Closed s) :
    BootSafe s (Main.config V args) (ConfigStage V s) (Ended R) := by
  refine safeBind (readConfigSafe R args.configDir closed) fun read t stage => ?_
  obtain ⟨same,reason⟩ := stage
  generalize t.log = lines at same
  subst same
  cases read with
  | none => exact ⟨closed,nofun,fun _ => reason rfl⟩
  | some ini =>
    refine safeRequest.2 ⟨closed,fun _ _ => safeBind (setAppLogsSafe V rfl closed) fun _ u logged => ?_⟩
    refine safeBind (setLoginSafe V logged.2.1) fun _ v same => ?_
    subst same
    refine safeBind (startScriptSafe R V logged.1 logged.2.1) fun started w database => ?_
    cases started with
    | false => exact ⟨database.closed,nofun,fun _ => database.reason rfl⟩
    | true =>
      have ready := database.ready rfl
      obtain ⟨config,o,given,agrees⟩ := database.agrees
      obtain ⟨returned,_,left,_⟩ := agrees
      rw [logged.2.2] at returned left
      refine safeRequest.2 ⟨ready.logs.1,fun _ _ => ⟨database.closed,fun found same => ?_,nofun⟩⟩
      rw [← Option.some.inj same]
      exact ⟨⟨⟨ready.config,ready.logs⟩,ready.database⟩,config,o,given,returned,left⟩

/-! The agents' listener. -/
theorem openRPCListenerSafe (failed : String → LogLine) (level : ∀ error, (failed error).level = .critical)
    (configured : Configured ini s) (closed : Closed s) (keys : ∀ part, (Listener.rpc,part) ∈ s.keys) :
    BootSafe s (openRPCListener V ini failed) (RPCStage ini s) fail := by
  simp only [openRPCListener,safeRequest,surroundingsAnswers,surroundingsAfter,allowed,after,answers,
    Closed,Shut,closed.1,closed.2,forall_const,true_and,and_self,Option.isSome_some,Option.map_some,List.nil_append,
    List.cons_append]
  intro error
  cases error with
  | some error =>
    simp only [safeRequest,safeDone,surroundingsAnswers,surroundingsAfter,allowed,after,answers,forall_const,
      reduceCtorEq,if_false]
    exact ⟨configured.logs.1,rfl,rfl,rfl,notOk,fun _ => critical rfl (level error)⟩
  | none =>
    simp only [safeRequest,safeDone,surroundingsAnswers,surroundingsAfter,allowed,after,answers,forall_const,true_and,
      if_true]
    refine ⟨⟨?_,configured.logs.1,rfl,keys,?_,?_⟩,configured.logs.1,rfl,rfl,rfl,fun _ => ⟨?_,rfl⟩,notFailed⟩
    · rw [configured.config]; rfl
    · simp
    · simp
    · exact ⟨⟨configured.config,configured.logs⟩,configured.database⟩

theorem createRPCListenerSafe (configured : Configured ini s) (closed : Closed s) :
    BootSafe s (createRPCListener V ini) (RPCStage ini s) fail := by
  simp only [createRPCListener,safeRequest,safeDone,surroundingsAnswers,surroundingsAfter,orFailFalse,orFailTrue,
    allowed,after,answers,Shut,Bool.forall_bool,Bool.false_eq_true,if_false,if_true,forall_const]
  have log := configured.logs.1
  refine ⟨closed.1,closed.1,⟨log,rfl,closed.1,closed.2,notOk,fun _ => critical rfl rfl⟩,
    closed.1,⟨log,rfl,closed.1,closed.2,notOk,fun _ => critical rfl rfl⟩,
    closed.1,⟨log,rfl,closed.1,closed.2,notOk,fun _ => critical rfl rfl⟩,?_⟩
  refine safeWeaken (openRPCListenerSafe V _ (fun _ => rfl) ⟨⟨configured.config,configured.logs⟩,configured.database⟩
    closed fun part => ?_) (fun _ _ stage => ⟨stage.same,stage.agents,stage.web,stage.ready,stage.reason⟩)
    fun _ _ ended => ended
  cases part <;> simp

/-! The web server. -/
theorem ensureAttribSafe (app attrib description : String) (log : s.appLog = true) (shut : s.acceptsWeb = false) :
    BootSafe s (ensureAttrib app attrib description) (AttribStage s app attrib) fail := by
  simp only [ensureAttrib,safeRequest,safeDone,surroundingsAnswers,surroundingsAfter,orFailFalse,orFailTrue,
    allowed,after,answers,Bool.forall_bool,Bool.not_false,Bool.not_true,Bool.false_eq_true,if_false,if_true,
    forall_const,true_and,false_implies]
  refine ⟨⟨shut,⟨log,rfl,List.Subset.refl _,notOk,fun _ => critical rfl rfl⟩,log,rfl,List.subset_cons_self _ _,
    fun _ => List.mem_cons_self,notFailed⟩,fun there => ⟨rfl,List.Subset.refl _,fun _ => there,notFailed⟩⟩

structure WebKeys (s : Process) : Prop where
  keys : (Listener.web,.publicKey) ∈ s.keys ∧ (Listener.web,.privateKey) ∈ s.keys
  socket : .web ∈ s.listening

structure WebBase (ini : LocalIni) (s : Process) : Prop where
  configured : Configured ini s
  fastRPC : s.agentMethods.isSome = true
  listeners : s.acceptsAgents = true ∧ s.acceptsWeb = false

structure WebAttribs (ini : LocalIni) (s : Process) : Prop where
  control : (Config.loginRPCAppName ini,"control") ∈ s.attribs
  stats : (Config.loginRPCAppName ini,"stats") ∈ s.attribs

theorem openWebServerSafe (base : WebBase ini s) (keys : WebKeys s) (attribs : WebAttribs ini s) :
    BootSafe s (openWebServer V ini) (WebStage s) fail := by
  obtain ⟨configured,fastRPC,agents,web⟩ := base
  have log := configured.logs.1
  simp only [openWebServer,acceptWeb,safeRequest,safeDone,surroundingsAnswers,surroundingsAfter,orFailFalse,orFailTrue,
    allowed,after,answers,Bool.forall_bool,forall_const,true_and,Option.map_some,Option.isSome_some,List.nil_append,
    List.cons_append]
  refine ⟨web,web,web,web,web,⟨configured.logs.2,web⟩,web,⟨log,⟨rfl,rfl⟩,agents,web,notOk,fun _ => critical rfl rfl⟩,
    web,web,web,web,⟨configured.logs,fastRPC,configured.database,?_,keys.keys,keys.socket,?_⟩,log,⟨rfl,rfl⟩,agents,
    rfl,fun _ => ⟨log,_,rfl,rfl⟩,notFailed⟩
  · exact ⟨ini,configured.config,attribs.control,attribs.stats⟩
  · exact ⟨_,rfl,rfl,rfl,List.mem_cons_self,rfl⟩

theorem webStageOf {u : Process} (same : u.localConfig = s.localConfig ∧ u.db = s.db) (ok : Bool) (t : Process)
    (stage : WebStage u ok t) : WebStage s ok t :=
  ⟨⟨stage.same.1.trans same.1,stage.same.2.trans same.2⟩,stage.agents,stage.web,stage.usable,stage.reason⟩

theorem webAttribsSafe (base : WebBase ini s) (keys : WebKeys s) :
    BootSafe s (webAttribs V ini) (WebStage s) fail := by
  have log := base.configured.logs.1
  refine safeBind (ensureAttribSafe _ _ _ log base.listeners.2) fun control t stage => ?_
  obtain ⟨same,_,there,reason⟩ := stage
  generalize t.attribs = attribs at same there
  generalize t.log = lines at same
  subst same
  cases control with
  | false => exact ⟨⟨rfl,rfl⟩,base.listeners.1,base.listeners.2,notOk,reason⟩
  | true =>
    refine safeBind (ensureAttribSafe _ _ _ log base.listeners.2) fun stats u stage => ?_
    obtain ⟨same,more,there',reason⟩ := stage
    generalize u.attribs = attribs' at same more there'
    generalize u.log = lines at same
    subst same
    cases stats with
    | false => exact ⟨⟨rfl,rfl⟩,base.listeners.1,base.listeners.2,notOk,reason⟩
    | true =>
      exact safeWeaken (openWebServerSafe V ⟨⟨⟨base.configured.config,base.configured.logs⟩,base.configured.database⟩,
        base.fastRPC,base.listeners⟩ ⟨keys.keys,keys.socket⟩ ⟨more (there rfl),there' rfl⟩) (webStageOf ⟨rfl,rfl⟩)
        fun _ _ ended => ended

theorem createWebServerSafe (base : WebBase ini s) : BootSafe s (createWebServer V ini) (WebStage s) fail := by
  obtain ⟨configured,fastRPC,agents,web⟩ := base
  have log := configured.logs.1
  simp only [createWebServer,safeRequest,safeDone,surroundingsAnswers,surroundingsAfter,orFailFalse,orFailTrue,
    allowed,after,answers,Shut,Bool.forall_bool,Bool.false_eq_true,if_false,if_true,forall_const]
  refine ⟨web,web,⟨log,⟨rfl,rfl⟩,agents,web,notOk,fun _ => critical rfl rfl⟩,web,
    ⟨log,⟨rfl,rfl⟩,agents,web,notOk,fun _ => critical rfl rfl⟩,web,fun error => ?_⟩
  cases error with
  | some error =>
    simp only [safeRequest,safeDone,surroundingsAnswers,surroundingsAfter,allowed,after,answers,forall_const,
      reduceCtorEq,if_false]
    exact ⟨log,⟨rfl,rfl⟩,agents,web,notOk,fun _ => critical rfl rfl⟩
  | none =>
    refine safeWeaken (webAttribsSafe V ⟨⟨⟨configured.config,configured.logs⟩,configured.database⟩,fastRPC,agents,web⟩
      ⟨?_,?_⟩) (webStageOf ⟨rfl,rfl⟩) fun _ _ ended => ended
    · simp
    · simp

/-! The static resources, and the whole. -/
def taken (s : Process) (w : WebServer) (done : Loading) : Process :=
  {s with web := some {w with elements := w.elements ++ done.elements},log := done.log.reverse ++ s.log}

theorem takenNext (s : Process) (w : WebServer) {i : Nat} {jContent : Json} (rest : List Json)
    (here : (loadElement R i jContent).fault = none) :
    taken (taken s w (loadElement R i jContent)) {w with elements := w.elements ++ (loadElement R i jContent).elements}
      (loadStatic R (i + 1) rest) = taken s w (loadStatic R i (jContent::rest)) ∧
    (loadStatic R i (jContent::rest)).fault = (loadStatic R (i + 1) rest).fault := by
  simp [taken,loadStatic,here]

structure StaticStage (s : Process) (w : WebServer) (done : Loading) (fault : Option Fault) (t : Process) : Prop where
  same : t = taken s w done
  fault : done.fault = fault

theorem addStaticSafe {w : WebServer} (staticContent : List Json) (log : s.appLog = true) (web : s.web = some w) (i : Nat) :
    BootSafe s (addStatic R i staticContent) (fun _ => StaticStage s w (loadStatic R i staticContent) none)
      (fun stop t => ∃ fault, stop = .fault fault ∧ StaticStage s w (loadStatic R i staticContent) (some fault) t) := by
  induction staticContent generalizing s w i with
  | nil => exact ⟨by simp [taken,loadStatic,← web],rfl⟩
  | cons jContent rest ih =>
    have later (u : Process) (here : (loadElement R i jContent).fault = none)
        (same : u = taken s w (loadElement R i jContent)) :
        BootSafe u (addStatic R (i + 1) rest)
          (fun _ => StaticStage s w (loadStatic R i (jContent::rest)) none) (fun stop t =>
            ∃ fault, stop = .fault fault ∧ StaticStage s w (loadStatic R i (jContent::rest)) (some fault) t) := by
      subst same
      obtain ⟨next,fault⟩ := takenNext R s w rest here
      refine safeWeaken (ih (s := taken s w (loadElement R i jContent)) log rfl (i + 1)) (fun _ t stage => ?_)
        fun stop t ended => ?_
      · exact ⟨stage.same.trans next,fault.trans stage.fault⟩
      · obtain ⟨threw,rfl,stage⟩ := ended
        exact ⟨threw,rfl,stage.same.trans next,fault.trans stage.fault⟩
    unfold addStatic
    cases shape : complete jContent with
    | error fault =>
      exact ⟨fault,rfl,by simp [taken,loadStatic,loadElement,shape,← web],by simp [loadStatic,loadElement,shape]⟩
    | ok both =>
      cases both with
      | false =>
        refine safeRequest.2 ⟨log,fun _ _ => later _ (by simp [loadElement,shape]) ?_⟩
        simp [taken,loadElement,shape,after,← web]
      | true =>
        refine safeRequest.2 ⟨by simp [allowed,web],fun _ _ => safeRequest.2 ⟨log,fun _ _ => later _ ?_ ?_⟩⟩
        · simp [loadElement,shape]
        · simp [taken,loadElement,shape,after,web]

structure Up (db : Database) (t : Process) : Prop where
  serving : Serving t
  served : StaticServed R t
  restarted : ∃ ini, t.localConfig = some ini ∧ Restarted V ini db t.db

theorem startSafe (args : Invocation) {db : Database} (configured : Configured ini s) (closed : Closed s)
    (restarted : Restarted V ini db s.db) :
    BootSafe s (Main.start R V args ini) (fun code t => code = 0 ∧ Up R V db t) (Ended R) := by
  have log := configured.logs.1
  simp only [Main.start,safeRequest,surroundingsAnswers,surroundingsAfter,allowed,after,answers,forall_const]
  refine ⟨trivial,fun _ => ⟨log,log,⟨log,closed⟩,safeBind (createRPCListenerSafe V ⟨⟨configured.config,configured.logs⟩,configured.database⟩
    closed) fun rpc t stage => ?_⟩⟩
  cases rpc with
  | false => exact ⟨stage.reason rfl,Or.inl ⟨rfl,stage.agents,stage.web⟩⟩
  | true =>
  obtain ⟨configured,fastRPC⟩ := stage.ready rfl
  rw [← stage.same] at restarted
  refine safeBind (createWebServerSafe V ⟨configured,fastRPC,stage.agents,stage.web⟩) fun web u stage => ?_
  cases web with
  | false => exact ⟨stage.reason rfl,Or.inr ⟨rfl,stage.agents,stage.web⟩⟩
  | true =>
  obtain ⟨log,w,found,fresh⟩ := stage.usable rfl
  simp only [safeRequest,surroundingsAnswers,surroundingsAfter,allowed,after,answers,forall_const,true_and,
    Bool.not_true,Bool.false_eq_true,if_false]
  refine ⟨log,fun staticContent => ?_⟩
  refine safeBind (safeWeaken (addStaticSafe R (w := w) staticContent ?_ ?_ 0) (fun _ _ stage => stage) ?_) ?_
  · exact log
  · exact found
  · rintro stop t ⟨fault,rfl,same,threw⟩
    subst same
    exact ⟨⟨stage.agents,stage.web⟩,⟨_,rfl,by simp [fresh,taken]⟩,threw⟩
  · intro _ t done
    obtain ⟨same,_⟩ := done
    subst same
    refine safeRequest.2 ⟨trivial,fun _ _ => safeRequest.2 ⟨log,fun _ _ => ⟨rfl,⟨stage.agents,stage.web⟩,?_,ini,?_,?_⟩⟩⟩
    · exact ⟨_,rfl,by simp [after,fresh,taken]⟩
    · exact stage.same.1.trans configured.config
    · exact stage.same.2 ▸ restarted

theorem applicationSafe (args : Invocation) (closed : Closed s) :
    BootSafe s (Main.application R V args) (fun code t => code = 0 ∧ Up R V s.db t) (Ended R) := by
  refine safeBind (configSafe R V args closed) fun configured t stage => ?_
  cases configured with
  | none => exact ⟨stage.closed,stage.reason rfl⟩
  | some ini =>
    obtain ⟨ready,restarted⟩ := stage.ready ini rfl
    exact startSafe R V args ready stage.closed restarted

end Parts

-- Everything the start-up asks for succeeds, on a login server without the attributes.
def obliging : {ρ : Type} → Process → Op ρ → ρ
  | _,_,.access _ => true
  | _,_,.stat _ => 33152
  | _,_,.chmod _ _ => true
  | _,_,.readIni _ =>
      some ⟨[("Database.DbHost","localhost"),("Database.DbUser","root"),("Database.DbPass","")]⟩
  | _,_,.getpid => 7
  | _,_,.connect _ => true
  | _,s,.dbTableExist => s.db.isSome
  | _,s,.createPosts => s.db.isNone
  | _,_,.loadKey _ _ _ => true
  | _,_,.listenOn _ _ _ _ => none
  | _,s,.attribExist app attrib => decide ((app,attrib) ∈ s.attribs)
  | _,_,.attribAdd _ _ _ => true
  | _,_,.setDocumentRootPath _ => true
  | _,_,.getStaticContent =>
      [.object [("path",.string "/login.html"),("content",.string "<html></html>")],.object []]
  | _,_,.prepareTLS | _,_,.initLogSet _ | _,_,.initLog _ | _,_,.chdir _ => ()
  | _,_,.setLocalInitConfig _ | _,_,.setAppLog _ | _,_,.setRPCLog _ | _,_,.appLogSet _ => ()
  | _,_,.rpcLogSet _ | _,_,.log _ | _,_,.loginSet _ | _,_,.loginStart => ()
  | _,_,.setSecurityLevel _ _ | _,_,.setFastRPC | _,_,.addMethod _ | _,_,.acceptorSet _ => ()
  | _,_,.startThreaded | _,_,.addDomain _ | _,_,.newMethodsManager _ | _,_,.addRPCMethod _ _ => ()
  | _,_,.setWebServer | _,_,.setWebRPCLog | _,_,.setAuthenticator | _,_,.setMethodManagers => ()
  | _,_,.setSoftwareVersion | _,_,.setExtCallBackOnInitFailed | _,_,.acceptPoolThreaded => ()
  | _,_,.addInternalContentElement _ _ => ()

theorem obligingMay (s : Process) {ρ : Type} (op : Op ρ) : surroundings.answers s op (obliging s op) := by
  cases op with
  | dbTableExist => exact id
  | createPosts => exact fun none => Option.isNone_iff_eq_none.mp none
  | attribExist app attrib => exact fun there => of_decide_eq_true there
  | _ => exact trivial

abbrev usualBoot : Boot Int :=
  Main.application Readers.plain ⟨fun _ => none,fun _ => none⟩ ⟨"/etc/hellomantids","hellomantids","",""⟩

def usualEnd (db : Database) (attribs : List (String × String)) : Process × Boot Int :=
  play surroundings obliging (Process.fresh db attribs) usualBoot

theorem usualRun (db : Database) (attribs : List (String × String)) :
    ∃ trace, Performs surroundings (Process.fresh db attribs) usualBoot trace (usualEnd db attribs).1
      (usualEnd db attribs).2 :=
  playPerforms obligingMay (Process.fresh db attribs) usualBoot

section Boots
variable {R : Readers} {V : Translators} {args : Invocation} {db : Database} {attribs : List (String × String)}
  {trace : List (Exchange Op)} {t : Process} {rest : Boot Int}

theorem freshClosed : Closed (Process.fresh db attribs) := ⟨rfl,rfl⟩

theorem bootReady
    (run : Performs surroundings (Process.fresh db attribs) (Main.application R V args) trace t rest) : OpenReady t :=
  safeInvariant openReadyKept (applicationSafe R V args freshClosed) (closedReady freshClosed) run

def RowsKept (db : Database) (t : Process) : Prop := t.db = db ∨ (db = none ∧ t.db = some Posts.empty)

theorem rowsAnswered (s : Process) {ρ : Type} (op : Op ρ) (r : ρ) (may : answers s op r) :
    RowsKept s.db (after s op r) := by
  cases op with
  | createPosts =>
    cases r with
    | false => exact Or.inl rfl
    | true => exact Or.inr ⟨may rfl,rfl⟩
  | loadKey listener part path => cases r <;> exact Or.inl rfl
  | listenOn listener port addr ipv4 => cases r <;> exact Or.inl rfl
  | attribAdd app attrib description => cases r <;> exact Or.inl rfl
  | _ => exact Or.inl rfl

theorem rowsKept (s : Process) {ρ : Type} (op : Op ρ) (r : ρ) (_ : allowed s op) (may : answers s op r)
    (kept : RowsKept db s) : RowsKept db (after s op r) := by
  rcases rowsAnswered s op r may with same | ⟨missing,made⟩
  · unfold RowsKept
    rw [same]
    exact kept
  · rcases kept with same | ⟨_,there⟩
    · exact Or.inr ⟨same.symm.trans missing,made⟩
    · rw [missing] at there
      contradiction

theorem bootRows
    (run : Performs surroundings (Process.fresh db attribs) (Main.application R V args) trace t rest) : RowsKept db t :=
  safeInvariant rowsKept (applicationSafe R V args freshClosed) (Or.inl rfl) run

end Boots

end HelloMantids
