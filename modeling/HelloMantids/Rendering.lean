import HelloMantids.Page
import Mathlib.Data.List.ReduceOption
import Mathlib.Data.List.Nodup

/-! What drawing the rows shows: one block a row, in order, with its texts in its own
spans and its id in its own button. -/
namespace HelloMantids
open Dom Html JsNumber

def generatedIds (t : String) : List String := ["owner" ++ t,"date" ++ t,"message" ++ t]

theorem blockIds (t : String) {owner date message : Nodes} (o : owner.ids = []) (d : date.ids = [])
    (m : message.ids = []) : (block t owner date message).ids = generatedIds t := by
  simp [block,el,Nodes.concat,Nodes.idsAppend,Nodes.ids,Nodes.idsPlain,generatedIds,o,d,m]

theorem stemsApart (s t : String) : "owner" ++ s ≠ "date" ++ t ∧ "owner" ++ s ≠ "message" ++ t ∧
    "date" ++ s ≠ "message" ++ t := by
  refine ⟨?_,?_,?_⟩ <;> intro same <;> simpa using congrArg String.toList same

theorem generatedSame {s t g : String} (left : g ∈ generatedIds s) (right : g ∈ generatedIds t) : s = t := by
  simp only [generatedIds,List.mem_cons,List.not_mem_nil,or_false] at left right
  obtain ⟨od,om,dm⟩ := stemsApart s t
  obtain ⟨od',om',dm'⟩ := stemsApart t s
  rcases left with rfl | rfl | rfl <;> rcases right with same | same | same
  · exact (String.append_right_inj "owner").mp same
  · exact absurd same od
  · exact absurd same om
  · exact absurd same.symm od'
  · exact (String.append_right_inj "date").mp same
  · exact absurd same dm
  · exact absurd same.symm om'
  · exact absurd same.symm dm'
  · exact (String.append_right_inj "message").mp same

theorem generatedNodup (t : String) : (generatedIds t).Nodup := by
  obtain ⟨od,om,dm⟩ := stemsApart t t
  simp [generatedIds,od,om,dm]

section Texts
variable (t a b c : String) (o d m : Nodes)

theorem plainIndent : Nodes.plain indent = .text indent .nil := rfl
theorem plainSpace : Nodes.plain " " = .text " " .nil := rfl

theorem setOwner : setText ("owner" ++ t) a (block t o d m) = block t (.plain a) d m := by
  simp [setText,block,el,Nodes.concat,Nodes.append,Nodes.appendNil,Nodes.change,Nodes.idsPlain,
    plainIndent,plainSpace]

theorem setDate : setText ("date" ++ t) b (block t (.plain a) d m) = block t (.plain a) (.plain b) m := by
  simp [setText,block,el,Nodes.concat,Nodes.append,Nodes.appendNil,Nodes.change,Nodes.ids,Nodes.idsPlain,
    plainIndent,plainSpace,(stemsApart t t).1]

theorem setMessage : setText ("message" ++ t) c (block t (.plain a) (.plain b) m) =
    block t (.plain a) (.plain b) (.plain c) := by
  simp [setText,block,el,Nodes.concat,Nodes.append,Nodes.appendNil,Nodes.change,Nodes.ids,Nodes.idsPlain,
    plainIndent,plainSpace,(stemsApart t t).2.1,(stemsApart t t).2.2]

end Texts

def fixedIds : List String := (page1 .nil).ids

def clearOf (stem id : String) : Bool :=
  let rest := id.toList.drop stem.toList.length
  id.toList.take stem.toList.length != stem.toList || rest == [] || !rest.all Char.isDigit

theorem clearDigits {stem id t : String} (clear : clearOf stem id = true) (digits : Digits t) :
    id ≠ stem ++ t := by
  rintro rfl
  have all : t.toList.all Char.isDigit = true := List.all_eq_true.mpr digits.2
  simp [clearOf,all,digits.1] at clear

theorem fixedClear : ∀ id ∈ fixedIds, clearOf "owner" id ∧ clearOf "date" id ∧ clearOf "message" id := by
  decide +kernel

theorem generatedFresh {t g : String} (digits : Digits t) (mem : g ∈ generatedIds t) : g ∉ fixedIds := by
  intro fixed
  obtain ⟨owner,date,message⟩ := fixedClear g fixed
  simp only [generatedIds,List.mem_cons,List.not_mem_nil,or_false] at mem
  rcases mem with rfl | rfl | rfl
  · exact clearDigits owner digits rfl
  · exact clearDigits date digits rfl
  · exact clearDigits message digits rfl

theorem outerFixed {g : String} (mem : g ∈ outer (around ++ [messageList])) : g ∈ fixedIds := by
  have all : ∀ id ∈ outer (around ++ [messageList]), id ∈ fixedIds := by decide +kernel
  exact all g mem

/-! Drawing one row appends its block. -/
theorem setTextInside {id s : String} {list : Nodes} (fixed : id ∉ fixedIds) (inside : id ∈ list.ids) :
    setText id s (page1 list) = page1 (setText id s list) :=
  changePlug (fun out => fixed (outerFixed out)) inside _

theorem setTextLast {id s : String} {list last : Nodes} (fixed : id ∉ fixedIds) (fresh : id ∉ list.ids)
    (inside : id ∈ last.ids) :
    setText id s (page1 (list.append last)) = page1 (list.append (setText id s last)) := by
  have within : id ∈ (list.append last).ids := by
    rw [Nodes.idsAppend]; exact List.mem_append_right _ inside
  rw [setTextInside fixed within]
  exact congrArg page1 (Nodes.changeRight fresh last)

theorem changeList (f : Nodes → Nodes) (list : Nodes) :
    (page1 list).change "messageList" f = page1 (f list) :=
  changeHolder (by decide +kernel) (by decide) rfl f

theorem digitsSafe {t : String} (digits : Digits t) : ∀ c ∈ t.toList, c ≠ '"' ∧ c ≠ '&' := by
  intro c mem
  have digit := digits.2 c mem
  constructor <;> (rintro rfl; revert digit; decide)

def rendered (msg : Message) : Nodes :=
  block (wholeText msg.id) (.plain msg.createdBy) (.plain msg.creationDate) (.plain msg.message)

theorem drawMessageStep {msg : Message} (small : msg.id < 10^21) {list : Nodes}
    (fresh : ∀ g ∈ generatedIds (wholeText msg.id), g ∉ list.ids) :
    drawMessage msg (page1 list) = some (page1 (list.append (rendered msg))) := by
  have digits := textDigits msg.whole small
  have text : (parseInt (wholeText msg.id)).text = wholeText msg.id := by
    rw [parseText msg.whole small]; rfl
  simp only [drawMessage,text,appendHTML,parseTemplate (digitsSafe digits),Option.map_some,changeList,
    rendered]
  generalize wholeText msg.id = t at fresh digits
  have fixed {g : String} (mem : g ∈ generatedIds t) : g ∉ fixedIds := generatedFresh digits mem
  have owner : "owner" ++ t ∈ generatedIds t := by simp [generatedIds]
  have date : "date" ++ t ∈ generatedIds t := by simp [generatedIds]
  have message : "message" ++ t ∈ generatedIds t := by simp [generatedIds]
  have created := Nodes.idsPlain msg.createdBy
  have dated := Nodes.idsPlain msg.creationDate
  rw [setTextLast (fixed owner) (fresh _ owner) (by rw [blockIds t rfl rfl rfl]; exact owner),setOwner,
    setTextLast (fixed date) (fresh _ date) (by rw [blockIds t created rfl rfl]; exact date),setDate,
    setTextLast (fixed message) (fresh _ message) (by rw [blockIds t created dated rfl]; exact message),
    setMessage]

theorem renderedOwn (msg : Message) : (rendered msg).ids = generatedIds (wholeText msg.id) :=
  blockIds _ (Nodes.idsPlain _) (Nodes.idsPlain _) (Nodes.idsPlain _)

theorem renderedIds (rows : List Message) :
    (Nodes.concat (rows.map rendered)).ids = rows.flatMap fun m => generatedIds (wholeText m.id) := by
  rw [Nodes.idsConcat,List.flatMap_map]
  exact List.flatMap_congr fun m _ => renderedOwn m

theorem renderedFresh {rows : List Message} {msg : Message} (small : ∀ m ∈ rows ++ [msg], m.id < 10^21)
    (distinct : ((rows ++ [msg]).map Message.id).Nodup) :
    ∀ g ∈ generatedIds (wholeText msg.id), g ∉ (Nodes.concat (rows.map rendered)).ids := by
  intro g mem earlier
  rw [renderedIds] at earlier
  obtain ⟨m,inside,same⟩ := List.mem_flatMap.mp earlier
  have text := generatedSame same mem
  have id : m.id = msg.id := textInjective m.whole (small m (by simp [inside])) msg.whole
    (small msg (by simp)) text
  rw [List.map_append] at distinct
  exact (List.nodup_append.mp distinct).2.2 m.id (List.mem_map_of_mem inside) msg.id (by simp) id

/- The rows already drawn are the blocks in the list; one more row adds its block. -/
theorem drawRowsBlocks (rows : List (Option Message)) (done : List Message)
    (small : ∀ m ∈ done ++ rows.reduceOption, m.id < 10^21)
    (distinct : ((done ++ rows.reduceOption).map Message.id).Nodup) :
    drawRows rows (page1 (Nodes.concat (done.map rendered))) =
      some (page1 (Nodes.concat ((done ++ rows.reduceOption).map rendered))) := by
  induction rows generalizing done with
  | nil => simp [drawRows]
  | cons row rest ih =>
    cases row with
    | none => exact ih done small distinct
    | some msg =>
      rw [List.reduceOption_cons_of_some] at small distinct ⊢
      have split : done ++ msg::rest.reduceOption = (done ++ [msg]) ++ rest.reduceOption := by simp
      rw [split] at small distinct ⊢
      have fresh := renderedFresh (fun m mem => small m (List.mem_append_left _ mem))
        (distinct.sublist ((List.sublist_append_left _ _).map Message.id))
      have small' : msg.id < 10^21 := small msg (by simp)
      simp only [drawRows,drawMessageStep small' fresh,Option.bind_some]
      rw [← Nodes.concatSnoc]
      have next := ih (done ++ [msg]) small distinct
      rwa [List.map_append,List.map_cons,List.map_nil] at next

/-! What a drawn block and the whole drawn page show. -/
structure ShowsAs (t : String) (row : Message) (b : Nodes) : Prop where
  ids : b.ids = generatedIds t
  owner : b.getElementById ("owner" ++ t) = some ⟨"span",[("id","owner" ++ t)],.plain row.createdBy⟩
  date : b.getElementById ("date" ++ t) = some ⟨"span",[("id","date" ++ t)],.plain row.creationDate⟩
  message : b.getElementById ("message" ++ t) = some ⟨"span",[("id","message" ++ t)],.plain row.message⟩
  button : ∃ code, b.values "onclick" = [code] ∧ removeCall code = some row.id

def Shows (row : Message) (b : Nodes) : Prop := ∃ t, ShowsAs t row b

def messageInput : Element := ⟨"input",[("type","text"),("id","message"),("width","100%")],.nil⟩

structure Rendered (rows : List Message) (doc : Nodes) (blocks : List Nodes) : Prop where
  document : doc = page1 (Nodes.concat blocks)
  shows : List.Forall₂ Shows rows blocks
  distinct : (Nodes.concat blocks).ids.Nodup
  apart : ∀ id ∈ (Nodes.concat blocks).ids, id ∉ fixedIds
  input : doc.getElementById "message" = some messageInput

structure SameMarkup (names : List String) (doc other : Nodes) : Prop where
  elements : doc.skeleton = other.skeleton
  text : doc.blanked names = other.blanked names

theorem removeCallText {x : Nat} (whole : Whole x) (small : x < 10^21) :
    removeCall ("javascript:removeMessage(" ++ wholeText x ++ ");") = some x := by
  have digits := textDigits whole small
  have argument : ("javascript:removeMessage(" ++ wholeText x ++ ");").toList =
      "javascript:removeMessage(".toList ++ (wholeText x ++ ");").toList := by simp
  have ends : (wholeText x ++ ");").toList.dropWhile Char.isDigit = [')',';'] := by
    rw [String.toList_append,List.dropWhile_append_of_pos digits.2]; rfl
  simp only [removeCall,argument,List.take_left,List.drop_left,ends,and_self,if_true,String.ofList_toList,
    parseTextBefore whole small ");" rfl]

theorem renderedShows {msg : Message} (small : msg.id < 10^21) : Shows msg (rendered msg) := by
  obtain ⟨od,om,dm⟩ := stemsApart (wholeText msg.id) (wholeText msg.id)
  refine ⟨wholeText msg.id,renderedOwn msg,?_,?_,?_,_,?_,removeCallText msg.whole small⟩
  · simp [rendered,block,el,Nodes.concat,Nodes.getElementById]
  · simp [rendered,block,el,Nodes.concat,Nodes.getElementById,od]
  · simp [rendered,block,el,Nodes.concat,Nodes.getElementById,om,dm]
  · simp [rendered,block,el,Nodes.concat,Nodes.values,List.lookup_cons]

theorem inputFound (list : Nodes) : (page1 list).getElementById "message" = some messageInput := (rfl)

def emptied (id : Nat) : Nodes := block (wholeText id) .nil .nil .nil

theorem renderedSkeleton (msg : Message) : (rendered msg).skeleton = (emptied msg.id).skeleton := by
  simp [rendered,emptied,block,el,Nodes.concat,Nodes.skeleton]

theorem renderedBlanked {names : List String} (msg : Message)
    (named : ∀ g ∈ generatedIds (wholeText msg.id), g ∈ names) :
    (rendered msg).blanked names = (emptied msg.id).blanked names := by
  simp only [generatedIds,List.forall_mem_cons] at named
  simp [rendered,emptied,block,el,Nodes.concat,Nodes.blanked,named]

theorem sameMarkup {rows others : List Message} (ids : others.map Message.id = rows.map Message.id) :
    SameMarkup (rows.flatMap fun m => generatedIds (wholeText m.id))
      (page1 (Nodes.concat (others.map rendered))) (page1 (Nodes.concat (rows.map rendered))) := by
  have skeletons (list : List Message) : (list.map rendered).map Nodes.skeleton =
      (list.map Message.id).map fun id => (emptied id).skeleton := by
    rw [List.map_map,List.map_map]
    exact List.map_congr_left fun m _ => renderedSkeleton m
  have names : (others.flatMap fun m => generatedIds (wholeText m.id)) =
      rows.flatMap fun m => generatedIds (wholeText m.id) := by
    have same (list : List Message) : (list.flatMap fun m => generatedIds (wholeText m.id)) =
        (list.map Message.id).flatMap fun id => generatedIds (wholeText id) := by rw [List.flatMap_map]
    rw [same,same,ids]
  have blanks (list : List Message) (listed : (list.flatMap fun m => generatedIds (wholeText m.id)) =
      rows.flatMap fun m => generatedIds (wholeText m.id)) :
      (list.map rendered).map (Nodes.blanked (rows.flatMap fun m => generatedIds (wholeText m.id))) =
      (list.map Message.id).map fun id =>
        (emptied id).blanked (rows.flatMap fun m => generatedIds (wholeText m.id)) := by
    rw [List.map_map,List.map_map]
    refine List.map_congr_left fun m mem => renderedBlanked m fun g inside => ?_
    rw [← listed]
    exact List.mem_flatMap.mpr ⟨m,mem,inside⟩
  constructor
  · refine skeletonPlug _ ?_
    rw [Nodes.skeletonConcat,Nodes.skeletonConcat,skeletons,skeletons,ids]
  · refine blankedPlug _ ?_
    rw [Nodes.blankedConcat,Nodes.blankedConcat,blanks others names,blanks rows rfl,ids]

theorem renderedAll {rows : List Message} (small : ∀ m ∈ rows, m.id < 10^21)
    (distinct : (rows.map Message.id).Nodup) :
    Rendered rows (page1 (Nodes.concat (rows.map rendered))) (rows.map rendered) where
  document := rfl
  shows := List.forall₂_map_right_iff.mpr (List.forall₂_same.mpr fun m mem => renderedShows (small m mem))
  distinct := by
    rw [renderedIds]
    refine List.nodup_flatMap.mpr ⟨fun m _ => generatedNodup _,?_⟩
    refine (List.pairwise_map.mp distinct).imp_of_mem fun {a b} left right other g ga gb => ?_
    exact other (textInjective a.whole (small a left) b.whole (small b right) (generatedSame ga gb))
  apart := by
    intro id mem
    rw [renderedIds] at mem
    obtain ⟨m,inside,generated⟩ := List.mem_flatMap.mp mem
    exact generatedFresh (textDigits m.whole (small m inside)) generated
  input := inputFound _

theorem parseNotice : parse "There are no messages in the database!" =
    some (.plain "There are no messages in the database!") := parseText (by simp)

theorem drawMessagesBlocks (list : Nodes) (rows : List (Option Message))
    (small : ∀ m ∈ rows.reduceOption, m.id < 10^21) (distinct : (rows.reduceOption.map Message.id).Nodup) :
    drawMessages (some rows) (page1 list) =
      some (page1 (Nodes.concat (rows.reduceOption.map rendered))) := by
  have nothing : parse "" = some .nil := rfl
  simp only [drawMessages,innerHTML,parseNotice,nothing,Option.map_some,Option.bind_some,changeList]
  exact drawRowsBlocks rows [] small distinct

theorem drawNothing (list : Nodes) : drawMessages none (page1 list) =
    some (page1 (.plain "There are no messages in the database!")) := by
  simp only [drawMessages,innerHTML,parseNotice,Option.map_some,Option.bind_some,changeList]

theorem boardRendered (rows : List (Option Message)) (small : ∀ m ∈ rows.reduceOption, m.id < 10^21)
    (distinct : (rows.reduceOption.map Message.id).Nodup) :
    ∃ doc blocks, drawMessages (some rows) (page1 .nil) = some doc ∧
      Rendered rows.reduceOption doc blocks ∧
      ∀ others : List (Option Message),
        others.reduceOption.map Message.id = rows.reduceOption.map Message.id →
        ∃ other, drawMessages (some others) (page1 .nil) = some other ∧
          SameMarkup (Nodes.concat blocks).ids other doc := by
  refine ⟨_,_,drawMessagesBlocks .nil rows small distinct,renderedAll small distinct,fun others ids => ?_⟩
  have small' : ∀ m ∈ others.reduceOption, m.id < 10^21 := by
    intro m mem
    have listed : m.id ∈ rows.reduceOption.map Message.id := ids ▸ List.mem_map_of_mem mem
    obtain ⟨r,inside,same⟩ := List.mem_map.mp listed
    exact same ▸ small r inside
  refine ⟨_,drawMessagesBlocks .nil others small' (ids ▸ distinct),?_⟩
  rw [renderedIds]
  exact sameMarkup ids

def lowId : Message := ⟨1,by decide +kernel,"first","ana","2024-01-01 10:00:00"⟩
def nextLowId : Message := ⟨2,by decide +kernel,"<b>second</b>","eva","2024-01-01 10:00:01"⟩
def hugeId : Message := ⟨10^21,by decide +kernel,"second","eva","2024-01-01 10:00:01"⟩

theorem boardRenderedThere :
    ∃ doc blocks, drawMessages (some [some nextLowId,none,some lowId]) (page1 .nil) = some doc ∧
      Rendered [nextLowId,lowId] doc blocks := by
  obtain ⟨doc,blocks,drawn,shown,_⟩ := boardRendered [some nextLowId,none,some lowId]
    (by decide) (by decide)
  exact ⟨doc,blocks,drawn,shown⟩

theorem setTextFirst {id s : String} {first last : Nodes} (fixed : id ∉ fixedIds) (inside : id ∈ first.ids) :
    setText id s (page1 (first.append last)) = page1 ((setText id s first).append last) := by
  have within : id ∈ (first.append last).ids := by
    rw [Nodes.idsAppend]; exact List.mem_append_left _ inside
  rw [setTextInside fixed within]
  exact congrArg page1 (Nodes.changeLeft inside last)

theorem drawTwice {msg : Message} {t : String} (digits : Digits t)
    (text : (parseInt (wholeText msg.id)).text = t) (a b c : String) :
    drawMessage msg (page1 (block t (.plain a) (.plain b) (.plain c))) =
      some (page1 ((block t (.plain msg.createdBy) (.plain msg.creationDate) (.plain msg.message)).append
        (block t .nil .nil .nil))) := by
  simp only [drawMessage,text,appendHTML,parseTemplate (digitsSafe digits),Option.map_some,changeList]
  have fixed {g : String} (mem : g ∈ generatedIds t) : g ∉ fixedIds := generatedFresh digits mem
  have owner : "owner" ++ t ∈ generatedIds t := by simp [generatedIds]
  have date : "date" ++ t ∈ generatedIds t := by simp [generatedIds]
  have message : "message" ++ t ∈ generatedIds t := by simp [generatedIds]
  have own (a b c : String) : (block t (.plain a) (.plain b) (.plain c)).ids = generatedIds t :=
    blockIds t (Nodes.idsPlain a) (Nodes.idsPlain b) (Nodes.idsPlain c)
  rw [setTextFirst (fixed owner) (by rw [own]; exact owner),setOwner,
    setTextFirst (fixed date) (by rw [own]; exact date),setDate,
    setTextFirst (fixed message) (by rw [own]; exact message),setMessage]

theorem drawRowsSnoc (rows : List (Option Message)) (msg : Message) (doc : Nodes) :
    drawRows (rows ++ [some msg]) doc = (drawRows rows doc).bind (drawMessage msg) := by
  induction rows generalizing doc with
  | nil =>
    simp only [List.nil_append,drawRows,Option.bind_some]
    exact Option.bind_fun_some _
  | cons row rest ih =>
    cases row with
    | none => exact ih doc
    | some first => simp only [List.cons_append,drawRows,ih,Option.bind_assoc]

theorem drawMessagesSnoc (rows : List (Option Message)) (msg : Message) (doc : Nodes) :
    drawMessages (some (rows ++ [some msg])) doc =
      (drawMessages (some rows) doc).bind (drawMessage msg) := by
  simp only [drawMessages,drawRowsSnoc,Option.bind_assoc]

-- The id 10^21 is written "1e+21" and read as 1.
theorem hugeIdCollides :
    ((List.reduceOption [some lowId,some hugeId]).map Message.id).Nodup ∧
    ¬ ∃ doc blocks, drawMessages (some [some lowId,some hugeId]) (page1 .nil) = some doc ∧
      Rendered (List.reduceOption [some lowId,some hugeId]) doc blocks := by
  refine ⟨by decide,?_⟩
  rintro ⟨doc,blocks,drawn,shown⟩
  have text : wholeText lowId.id = "1" := by decide +kernel
  have reads : (parseInt (wholeText hugeId.id)).text = "1" := by decide +kernel
  have digits : Digits "1" := by simpa only [text] using textDigits lowId.whole (by decide)
  have first := drawMessagesBlocks .nil [some lowId] (by decide) (by decide)
  have second := drawTwice digits reads lowId.createdBy lowId.creationDate lowId.message
  have both := drawMessagesSnoc [some lowId] hugeId (page1 .nil)
  rw [first,Option.bind_some] at both
  change _ = drawMessage hugeId (page1 ((rendered lowId).append .nil)) at both
  rw [Nodes.appendNil,rendered,text,second] at both
  have same := plugSameIds (shown.document.symm.trans (Option.some.inj (drawn.symm.trans both)))
  have ids := shown.distinct
  rw [same,Nodes.idsAppend,blockIds "1" (Nodes.idsPlain _) (Nodes.idsPlain _) (Nodes.idsPlain _),
    blockIds "1" rfl rfl rfl] at ids
  revert ids
  decide

end HelloMantids
