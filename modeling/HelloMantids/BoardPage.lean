import HelloMantids.Board
import HelloMantids.Rendering

/-! From the table to the page and back: the listing the store answers, read and drawn
by the page, and the removal that a block's button asks for. -/
namespace HelloMantids
open Dom JsNumber

def message? (j : Json) : Option Message :=
  match j.find? "id",j.find? "message",j.find? "createdBy",j.find? "creationDate" with
  | some (.uint id),some (.string message),some (.string createdBy),some (.string creationDate) =>
      if whole : Whole id then some ⟨id,whole,message,createdBy,creationDate⟩ else none
  | _,_,_,_ => none

def element? : Json → Option (Option Message)
  | .null => some none
  | j => (message? j).map some

-- None for an answer that no listing has.
def listing? : Json → Option (Option (List (Option Message)))
  | .null => some none
  | .array elements => (elements.mapM element?).map some
  | _ => none

def showBoard (o : ReadOutcome) (db : Database) : Option Nodes :=
  (listing? (getMessages o db).answer).bind fun result => drawMessages result (page1 .nil)

theorem drawAgain (result : Option (List (Option Message))) (list : Nodes) :
    drawMessages result (page1 list) = drawMessages result (page1 .nil) := by
  simp only [drawMessages,innerHTML,parseNotice,Option.map_some,Option.bind_some,changeList]

structure SameRow (r : Row) (m : Message) : Prop where
  id : m.id = r.id
  message : m.message = r.message
  createdBy : m.createdBy = r.createdBy
  creationDate : m.creationDate = r.creationDate

theorem smallWhole {n : Nat} (small : n ≤ maxInteger) : Whole n := by
  unfold maxInteger at small
  exact wholeBelow (by omega)

theorem messageRow {r : Row} (small : r.id ≤ maxInteger) :
    ∃ m, element? (messageJson r) = some (some m) ∧ SameRow r m := by
  refine ⟨⟨r.id,smallWhole small,r.message,r.createdBy,r.creationDate⟩,?_,rfl,rfl,rfl,rfl⟩
  simp [element?,messageJson,message?,Json.find?,Json.members?,List.lookup_cons,smallWhole small]

theorem entriesRead {rows : List Row} (small : ∀ r ∈ rows, r.id ≤ maxInteger) :
    ∃ messages : List Message, (rows.map messageJson).mapM element? = some (messages.map some) ∧
      List.Forall₂ SameRow rows messages := by
  induction rows with
  | nil => exact ⟨[],rfl,.nil⟩
  | cons r rest ih =>
    obtain ⟨here,later⟩ := List.forall_mem_cons.mp small
    obtain ⟨m,read,same⟩ := messageRow here
    obtain ⟨messages,others,rows⟩ := ih later
    refine ⟨m::messages,?_,.cons same rows⟩
    rw [List.map_cons,List.mapM_cons,read,others]
    rfl

theorem deliveredSmall (o : ReadOutcome) (db : Database) : ∀ r ∈ delivered o db, r.id ≤ maxInteger := by
  intro r mem
  have inside := deliveredRows mem
  cases db with
  | none => simp [Database.rows] at inside
  | some t => exact (t.assigned r inside).2.2

theorem deliveredKeyed (o : ReadOutcome) (db : Database) : ((delivered o db).map Row.id).Nodup := by
  have keyed := (rowsKeyed db).1
  cases o with
  | selectFails => exact List.nodup_nil
  | fetchFails k => exact keyed.sublist ((List.take_sublist k db.rows).map Row.id)
  | delivers => exact keyed

theorem sameIds {rows : List Row} {messages : List Message} (same : List.Forall₂ SameRow rows messages) :
    messages.map Message.id = rows.map Row.id := by
  induction same with
  | nil => rfl
  | cons here _ ih => rw [List.map_cons,List.map_cons,here.id,ih]

theorem listingRead (o : ReadOutcome) (db : Database) (present : delivered o db ≠ []) :
    ∃ messages : List Message, listing? (getMessages o db).answer = some (some (messages.map some)) ∧
      List.Forall₂ SameRow (delivered o db) messages := by
  obtain ⟨messages,read,same⟩ := entriesRead (deliveredSmall o db)
  refine ⟨messages,?_,same⟩
  rw [getMessagesAnswer]
  cases shown : delivered o db with
  | nil => exact absurd shown present
  | cons r rest =>
    rw [shown] at read
    have array : listing? (listed ((r::rest).map messageJson)) =
        (((r::rest).map messageJson).mapM element?).map some := rfl
    rw [array,read]
    rfl

/-- The page shows the rows the read delivered, block by block, or its notice if none. -/
theorem boardShown (o : ReadOutcome) (db : Database) :
    (delivered o db = [] →
      showBoard o db = some (page1 (.plain "There are no messages in the database!"))) ∧
    (delivered o db ≠ [] → ∃ doc blocks messages, showBoard o db = some doc ∧
      Rendered messages doc blocks ∧ List.Forall₂ SameRow (delivered o db) messages) := by
  constructor
  · intro empty
    rw [showBoard,getMessagesAnswer,empty]
    exact drawNothing .nil
  · intro present
    obtain ⟨messages,read,same⟩ := listingRead o db present
    have reduced : (messages.map some).reduceOption = messages := by
      simp [List.reduceOption,List.filterMap_map]
    have ids := sameIds same
    have distinct : (messages.map Message.id).Nodup := ids ▸ deliveredKeyed o db
    have small : ∀ m ∈ messages, m.id < 10^21 := by
      intro m mem
      have listed : m.id ∈ (delivered o db).map Row.id := ids ▸ List.mem_map_of_mem mem
      obtain ⟨r,inside,id⟩ := List.mem_map.mp listed
      have h := deliveredSmall o db r inside
      unfold maxInteger at h
      omega
    have drawn := drawMessagesBlocks .nil (messages.map some) (by rwa [reduced]) (by rwa [reduced])
    rw [reduced] at drawn
    exact ⟨_,_,messages,by rw [showBoard,read]; exact drawn,renderedAll small distinct,same⟩

/-! The rows on a drawn page, and its buttons. -/
structure Displays (doc block : Nodes) (r : Row) : Prop where
  listed : ∃ blocks, doc = page1 (Nodes.concat blocks) ∧ block ∈ blocks
  shows : ∃ m, SameRow r m ∧ Shows m block

theorem shownPage {o : ReadOutcome} {db : Database} {doc : Nodes} (shown : showBoard o db = some doc) :
    ∃ list, doc = page1 list := by
  by_cases empty : delivered o db = []
  · rw [(boardShown o db).1 empty] at shown
    cases shown
    exact ⟨_,rfl⟩
  · obtain ⟨other,blocks,_,drawn,rendered,_⟩ := (boardShown o db).2 empty
    rw [drawn] at shown
    cases shown
    exact ⟨_,rendered.document⟩

theorem displaysDelivered {o : ReadOutcome} {db : Database} {doc : Nodes} (shown : showBoard o db = some doc)
    {r : Row} (mem : r ∈ delivered o db) : ∃ block, Displays doc block r := by
  obtain ⟨other,blocks,messages,drawn,rendered,same⟩ := (boardShown o db).2 (List.ne_nil_of_mem mem)
  rw [drawn] at shown
  cases shown
  obtain ⟨k,inside,rfl⟩ := List.getElem_of_mem mem
  have listed : k < messages.length := same.length_eq ▸ inside
  have drawnAt : k < blocks.length := rendered.shows.length_eq ▸ listed
  exact ⟨blocks[k],⟨blocks,rendered.document,List.getElem_mem drawnAt⟩,
    messages[k],same.get inside listed,rendered.shows.get listed drawnAt⟩

/-- What the page shows of a read: the rows it delivered, one block each, or the notice if
there are none, be it that the table is empty or that the read failed. -/
structure Drawn (o : ReadOutcome) (db : Database) (doc : Nodes) : Prop where
  nothing : delivered o db = [] → doc = page1 (.plain "There are no messages in the database!")
  blocks : delivered o db ≠ [] → ∃ blocks messages, Rendered messages doc blocks ∧
    List.Forall₂ SameRow (delivered o db) messages
  whole : o = .delivers → ∀ r ∈ db.rows, ∃ block, Displays doc block r

theorem shownDrawn {o : ReadOutcome} {db : Database} {doc : Nodes} (shown : showBoard o db = some doc) :
    Drawn o db doc where
  nothing empty := by
    rw [(boardShown o db).1 empty] at shown
    exact (Option.some.inj shown).symm
  blocks present := by
    obtain ⟨other,blocks,messages,drawn,rendered,same⟩ := (boardShown o db).2 present
    rw [drawn] at shown
    cases shown
    exact ⟨blocks,messages,rendered,same⟩
  whole := by
    rintro rfl r mem
    exact displaysDelivered shown mem

theorem fixedButtons : ∀ code ∈ (page1 .nil).values "onclick", removeCall code = none := by decide +kernel

theorem pageButton {list : Nodes} {code : String} {id : Nat} (mem : code ∈ (page1 list).values "onclick")
    (removes : removeCall code = some id) : code ∈ list.values "onclick" := by
  obtain ⟨early,late,values⟩ := valuesPlug (around ++ [messageList]) "onclick"
  have fixed (code) (mem : code ∈ early ++ late) : removeCall code = none := by
    refine fixedButtons code ?_
    rw [page1,values]
    simpa [Nodes.values] using mem
  rw [page1,values,List.mem_append,List.mem_append] at mem
  rcases mem with (front | inside) | behind
  · rw [fixed code (List.mem_append_left _ front)] at removes; contradiction
  · exact inside
  · rw [fixed code (List.mem_append_right _ behind)] at removes; contradiction

theorem displaysButton {o : ReadOutcome} {db : Database} {doc : Nodes} (shown : showBoard o db = some doc)
    {code : String} {id : Nat} (mem : code ∈ doc.values "onclick") (removes : removeCall code = some id) :
    ∃ r block, r ∈ delivered o db ∧ Displays doc block r ∧ code ∈ block.values "onclick" ∧ r.id = id := by
  by_cases empty : delivered o db = []
  · rw [(boardShown o db).1 empty] at shown
    cases shown
    simpa using pageButton mem removes
  · obtain ⟨other,blocks,messages,drawn,rendered,same⟩ := (boardShown o db).2 empty
    rw [drawn] at shown
    cases shown
    rw [rendered.document] at mem
    have inside := pageButton mem removes
    rw [Nodes.valuesConcat] at inside
    obtain ⟨block,listed,own⟩ := List.mem_flatMap.mp inside
    obtain ⟨k,drawnAt,rfl⟩ := List.getElem_of_mem listed
    have lettered : k < messages.length := rendered.shows.length_eq ▸ drawnAt
    have stored : k < (delivered o db).length := same.length_eq ▸ lettered
    have row := same.get stored lettered
    have shows := rendered.shows.get lettered drawnAt
    obtain ⟨_,drawnAs⟩ := rendered.shows.get lettered drawnAt
    obtain ⟨only,button,call⟩ := drawnAs.button
    have lone : code = only := List.mem_singleton.mp (button ▸ own)
    rw [lone,call] at removes
    cases removes
    exact ⟨(delivered o db)[k],blocks[k],List.getElem_mem stored,
      ⟨⟨blocks,rendered.document,List.getElem_mem drawnAt⟩,messages[k],row,shows⟩,own,row.id.symm⟩

theorem displayedButton {doc block : Nodes} {r : Row} (displays : Displays doc block r) :
    ∃ (k : Nat) (code : String), (doc.values "onclick")[k]? = some code ∧ removeCall code = some r.id := by
  obtain ⟨blocks,rfl,listed⟩ := displays.listed
  obtain ⟨m,row,_,drawnAs⟩ := displays.shows
  obtain ⟨code,button,call⟩ := drawnAs.button
  obtain ⟨early,late,values⟩ := valuesPlug (around ++ [messageList]) "onclick"
  have inside : code ∈ (page1 (Nodes.concat blocks)).values "onclick" := by
    rw [page1,values,Nodes.valuesConcat]
    exact List.mem_append_left _ (List.mem_append_right _ (List.mem_flatMap.mpr ⟨block,listed,by rw [button]; simp⟩))
  obtain ⟨k,found⟩ := List.getElem?_of_mem inside
  exact ⟨k,code,found,by rw [call,row.id]⟩

/-! A click on a block's button. A whole number that a script sends reaches the server
as the kind the JSON reader decodes its digits to. -/
def numberJson (n : Nat) : Json :=
  if n < 2^63 then .int n else if n < 2^64 then .uint n else .real n 0

theorem numberRead {n : Nat} (fits : n < 2^32) : (numberJson n).asUnsigned? = some n := by
  have range : (0 : Int) ≤ n ∧ (n : Int) < 2^32 := ⟨Int.natCast_nonneg n,by exact_mod_cast fits⟩
  rw [numberJson,if_pos (by omega),Json.asUnsigned?,if_pos range,Int.toNat_natCast]

theorem sentId {R : Readers} (law : R.Documented) {n : Nat} (small : n ≤ maxInteger) :
    postId R (.object [("id",numberJson n)]) = n := by
  unfold maxInteger at small
  have fits : n < 2^32 := by omega
  have member : (Json.object [("id",numberJson n)]).unsignedMember? "id" = some n := numberRead fits
  rw [postId,law.unsigned 0 member,Nat.mod_eq_of_lt fits]

theorem removeOnly {R : Readers} (law : R.Documented) {t : Posts} {r : Row} (mem : r ∈ t.rows) {o : Exec}
    (accepted : o.accepted = true) (sess : Session) :
    (removeMessage R o sess (.object [("id",numberJson r.id)]) (some t)).answer = .bool true ∧
    ∀ q, q ∈ (removeMessage R o sess (.object [("id",numberJson r.id)]) (some t)).db.rows ↔
      q ∈ t.rows ∧ q ≠ r := by
  have id := sentId law (t.assigned r mem).2.2
  refine ⟨removeTaken.mpr ⟨accepted,rfl⟩,fun q => ?_⟩
  rw [removeAccepted accepted,id,deletedRows]
  refine and_congr_right fun inside => not_congr ⟨fun same => t.sameRow inside mem same,?_⟩
  intro same
  rw [same]

/-- The block shows the row, and the call that its one button makes, once accepted,
removes this row and no other. -/
structure RemovesRow (R : Readers) (t : Posts) (r : Row) (block : Nodes) : Prop where
  shows : ∃ m, SameRow r m ∧ Shows m block
  button : ∃ code, block.values "onclick" = [code] ∧ removeCall code = some r.id
  removes : ∀ o sess, o.accepted = true →
    (removeMessage R o sess (.object [("id",numberJson r.id)]) (some t)).answer = .bool true ∧
    ∀ q, q ∈ (removeMessage R o sess (.object [("id",numberJson r.id)]) (some t)).db.rows ↔ q ∈ t.rows ∧ q ≠ r

theorem buttonRemovesItsRow {R : Readers} (law : R.Documented) (t : Posts) (present : t.rows ≠ []) :
    ∃ doc blocks messages, showBoard .delivers (some t) = some doc ∧ Rendered messages doc blocks ∧
      List.Forall₂ SameRow t.rows messages ∧ List.Forall₂ (RemovesRow R t) t.rows blocks := by
  obtain ⟨doc,blocks,messages,drawn,rendered,same⟩ := (boardShown .delivers (some t)).2 present
  refine ⟨doc,blocks,messages,drawn,rendered,same,?_⟩
  refine List.forall₂_iff_get.mpr ⟨same.length_eq.trans rendered.shows.length_eq,fun k inside drawnAt => ?_⟩
  have listed : k < messages.length := rendered.shows.length_eq ▸ drawnAt
  have row := same.get inside listed
  have shows := rendered.shows.get listed drawnAt
  obtain ⟨_,drawnAs⟩ := rendered.shows.get listed drawnAt
  obtain ⟨code,button,call⟩ := drawnAs.button
  refine ⟨⟨_,row,shows⟩,⟨code,button,?_⟩,fun o sess accepted => removeOnly law (List.get_mem ..) accepted sess⟩
  rw [call]
  exact congrArg some row.id

def twoRows : Posts := onePost.append ⟨2,"again","eva","t2"⟩ (by decide) (by decide)

theorem buttonRemovesItsRowThere :
    ∃ doc blocks block code, showBoard .delivers (some twoRows) = some doc ∧ doc = page1 (Nodes.concat blocks) ∧
      blocks[1]? = some block ∧ block.values "onclick" = [code] ∧ removeCall code = some 2 ∧
      ∀ q, q ∈ (removeMessage Readers.plain ⟨true,"",0,"t3",true⟩ ⟨"ana","1",["control"]⟩
        (.object [("id",numberJson 2)]) (some twoRows)).db.rows ↔ q ∈ twoRows.rows ∧ q ≠ ⟨2,"again","eva","t2"⟩ := by
  obtain ⟨doc,blocks,messages,shown,rendered,_,rows⟩ :=
    buttonRemovesItsRow Readers.plainDocumented twoRows (List.cons_ne_nil _ _)
  have count : 2 = blocks.length := rows.length_eq
  have second := rows.get (i := 1) (by decide) (by omega)
  obtain ⟨code,button,call⟩ := second.button
  exact ⟨doc,blocks,_,code,shown,rendered.document,List.getElem?_eq_getElem (by omega),button,call,
    (second.removes ⟨true,"",0,"t3",true⟩ ⟨"ana","1",["control"]⟩ rfl).2⟩

end HelloMantids
