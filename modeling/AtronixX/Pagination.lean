import AtronixX.Database
import AtronixX.Keyboards
import AtronixX.Library.Pages
import AtronixX.Strings

/-! The lists that are shown page by page: `_render` of `handlers/sftp.py` with `sftp_kb`, and
`cb_list` of `handlers/hosts.py` with `hosts_list_kb`, here with the texts of the buttons. -/
namespace AtronixX.Pagination
open Library.Numerals Library.Pages Database Strings
open Callbacks (Press)

structure Labelled where
  text : Text
  button : Keyboards.Button
  deriving DecidableEq, Repr

abbrev Board := List (List Labelled)

def btn (text : Text) (press : Press) : Labelled := ⟨text,.callback press⟩

def kb (rows : Board) : Board := rows.filter fun row => !row.isEmpty

/-- `gbtns[i : i + 2]` for every second `i`. -/
def pairs {α : Type} : List α → List (List α)
  | [] => []
  | [button] => [[button]]
  | one :: two :: rest => [one,two] :: pairs rest

def pageRow (page pages : Nat) (target : Int → Press) : List Labelled :=
  (if page > 0 then [btn "◀️".toList (target (page - 1))] else []) ++
    [btn (str (page + 1) ++ "/".toList ++ str pages) .noop] ++
    if page < (pages : Int) - 1 then [btn "▶️".toList (target (page + 1))] else []

section
variable (strings : Table) (lang : String)

def entryLabel (mode : Sftp.Mode) (entry : Sftp.Entry) : Text :=
  let icon := if entry.isDir then "📁 ".toList else "📄 ".toList
  ((if mode = .delete then "🗑 ".toList ++ icon else icon) ++ entry.name.toList).take 60

def entryVerb (mode : Sftp.Mode) (entry : Sftp.Entry) : Text :=
  if mode = .delete then "del".toList else if entry.isDir then "cd".toList else "dl".toList

/-- The buttons of a page, with the indices counted from its start. -/
def entryButtons (entries : List Sftp.Entry) (start count : Nat) (mode : Sftp.Mode) :
    List Labelled :=
  (((entries.drop start).take count).zipIdx start).map fun (entry,i) =>
    btn (entryLabel mode entry) (.nav (entryVerb mode entry) (some i))

def tools (atRoot : Bool) (mode : Sftp.Mode) : Board :=
  [(if atRoot then [] else [btn (t strings "b_up" lang []) (.nav "up".toList none)]) ++
    [btn (t strings "b_refresh" lang []) (.nav "rf".toList none),
      btn (t strings "b_upload" lang []) (.nav "uph".toList none)],
    [btn (t strings "b_mkdir" lang []) (.nav "md".toList none),
      btn (t strings (if mode = .delete then "b_delmode_off" else "b_delmode") lang [])
        (.nav "dm".toList none)],
    [btn (t strings "b_exit" lang []) (.nav "exit".toList none)]]

def sftpKb (entries : List Sftp.Entry) (page pages perPage : Nat) (atRoot : Bool)
    (mode : Sftp.Mode) : Board :=
  kb ((entryButtons entries (page * perPage) perPage mode).map (fun button => [button]) ++
    (if pages > 1 then [pageRow page pages fun page => .nav "pg".toList (some page)] else []) ++
    tools strings lang atRoot mode)

/-- `_render` after its `listdir`: what it stores, and what it shows. -/
def render (folder : String) (entries : List Sftp.Entry) (browser : Sftp.Browser) :
    Sftp.Browser × Board :=
  let state := browser.store folder entries
  (state,sftpKb strings lang entries state.page.toNat (pageCount Sftp.perPage entries.length)
    Sftp.perPage (state.path == "/") state.mode)

def perPage : Nat := 8

def hostLabel (host : PublicHost) : Text :=
  (if host.favorite then "⭐ ".toList else "🖥 ".toList) ++ host.label.toList

def groupButton (group : Int × GroupRow × Nat) : Labelled :=
  btn ("🗂 ".toList ++ group.2.1.name.toList ++ " (".toList ++ str group.2.2 ++ ")".toList)
    (.hostList group.1 0)

def hostTools (gid : Int) : List Labelled :=
  [btn (t strings "b_add" lang []) .add,
    btn (t strings "b_back" lang []) (if gid = 0 then .menuHome else .hostList 0 0)]

def hostsListKb (groups : List (Int × GroupRow × Nat)) (hosts : List (Int × PublicHost))
    (gid : Int) (page pages : Nat) : Board :=
  kb ((if gid = 0 ∧ page = 0 then pairs ((groups.take 12).map groupButton) else []) ++
    hosts.map (fun host => [btn (hostLabel host.2) (.view host.1)]) ++
    (if pages > 1 then [pageRow page pages (.hostList gid)] else []) ++
    [hostTools strings lang gid])

/-- `cb_list`: the title and the keyboard. -/
def cbList (uid gid page : Int) (tables : Tables) : Text × Board :=
  let groups := if gid = 0 then listGroups uid tables else []
  let hosts := listHosts uid (some gid) tables
  let pages := pageCount perPage hosts.length
  let page := (clamp pages page).toNat
  let title :=
    if gid ≠ 0 then
      let name := (getGroup gid uid tables).elim "?".toList fun group => group.name.toList
      t strings "group_title" lang [("name",.str name),("count",.str (str hosts.length))]
    else if hosts = [] ∧ groups = [] then t strings "hosts_empty" lang []
    else t strings "hosts_title" lang [("count",.str (str (countHostsOf uid tables)))]
  (title,hostsListKb strings lang groups (chunk perPage hosts page) gid page pages)

end

def Board.keyboard (board : Board) : Keyboards.Keyboard :=
  board.map fun row => row.map Labelled.button

private theorem keyboard_kb (rows : Board) :
    Board.keyboard (kb rows) = Keyboards.kb (Board.keyboard rows) := by
  unfold Board.keyboard kb Keyboards.kb
  rw [List.filter_map]
  congr 2
  funext row
  simp

private theorem keyboard_pairs (row : List Labelled) :
    Board.keyboard (pairs row) = Keyboards.pairs (row.map Labelled.button) := by
  induction row using pairs.induct with
  | case1 => rfl
  | case2 button => rfl
  | case3 one two rest ih => exact congrArg ([one.button,two.button] :: ·) ih

private theorem keyboard_pageRow (page pages : Nat) (target : Int → Press) :
    (pageRow page pages target).map Labelled.button = Keyboards.pageRow page pages target := by
  unfold pageRow Keyboards.pageRow
  split <;> split <;> rfl

private theorem keyboard_append (one two : Board) :
    Board.keyboard (one ++ two) = Board.keyboard one ++ Board.keyboard two := List.map_append

private theorem keyboard_arrows (page pages : Nat) (target : Int → Press) :
    Board.keyboard (if pages > 1 then [pageRow page pages target] else []) =
      if pages > 1 then [Keyboards.pageRow page pages target] else [] := by
  split
  next => exact congrArg (fun row => [row]) (keyboard_pageRow page pages target)
  next => rfl

theorem keyboard_sftpKb (strings : Table) (lang : String) (entries : List Sftp.Entry)
    (page pages perPage : Nat) (atRoot : Bool) (mode : Sftp.Mode) :
    Board.keyboard (sftpKb strings lang entries page pages perPage atRoot mode) =
      Keyboards.sftpKb entries page pages perPage atRoot mode := by
  have listed : Board.keyboard ((entryButtons entries (page * perPage) perPage mode).map
      fun button => [button]) = _ := List.map_map.trans List.map_map
  have below : Board.keyboard (tools strings lang atRoot mode) = _ := rfl
  unfold sftpKb Keyboards.sftpKb
  rw [keyboard_kb,keyboard_append,keyboard_append,keyboard_arrows,listed,below]
  cases atRoot <;> rfl

theorem keyboard_hostsListKb (strings : Table) (lang : String)
    (groups : List (Int × GroupRow × Nat)) (hosts : List (Int × PublicHost)) (gid : Int)
    (page pages : Nat) :
    Board.keyboard (hostsListKb strings lang groups hosts gid page pages) =
      Keyboards.hostsListKb (groups.map Prod.fst) (hosts.map Prod.fst) gid page pages := by
  have grouped : Board.keyboard
      (if gid = 0 ∧ page = 0 then pairs ((groups.take 12).map groupButton) else []) =
      if gid = 0 ∧ page = 0 then Keyboards.pairs (((groups.map Prod.fst).take 12).map fun group =>
        Keyboards.btn (.hostList group 0)) else [] := by
    split
    next =>
      rw [keyboard_pairs,← List.map_take,List.map_map,List.map_map]
      rfl
    next => rfl
  have listed : Board.keyboard
      (hosts.map fun host => [btn (hostLabel host.2) (.view host.1)]) =
      (hosts.map Prod.fst).map fun host => [Keyboards.btn (.view host)] := by
    unfold Board.keyboard
    rw [List.map_map,List.map_map]
    rfl
  unfold hostsListKb Keyboards.hostsListKb
  rw [keyboard_kb,keyboard_append,keyboard_append,keyboard_append,grouped,listed,keyboard_arrows]
  rfl

def arrow (text : Text) (target : Press → Option Int) (board : Board) : Option Int :=
  board.flatten.findSome? fun shown =>
    if shown.text = text then shown.button.press.bind target else none

/-- The page that a press of the browser asks for. -/
def browserPage : Press → Option Int
  | .nav verb page => if verb = "pg".toList then page else none
  | _ => none

/-- The page of the list that a press asks for. -/
def listPage (gid : Int) : Press → Option Int
  | .hostList group page => if group = gid then some page else none
  | _ => none

/-- What a button of an entry says, what it does, and what its index stands for. -/
def chosen (entries : List Sftp.Entry) (shown : Labelled) : Option (Text × Text × Sftp.Entry) :=
  match shown.button with
  | .callback (.nav verb (some index)) =>
    if verb = "pg".toList then none
    else (entries[index.toNat]?).map fun entry => (shown.text,verb,entry)
  | _ => none

def hostShown (shown : Labelled) : Option (Text × Int) :=
  match shown.button with
  | .callback (.view id) => some (shown.text,id)
  | _ => none

def browserReader (entries : List Sftp.Entry) : Reader Board (Text × Text × Sftp.Entry) where
  shown board := board.flatten.filterMap (chosen entries)
  back := arrow "◀️".toList browserPage
  forward := arrow "▶️".toList browserPage

def listReader (gid : Int) : Reader Board (Text × Int) where
  shown board := board.flatten.filterMap hostShown
  back := arrow "◀️".toList (listPage gid)
  forward := arrow "▶️".toList (listPage gid)

theorem flatten_kb (rows : Board) : (kb rows).flatten = rows.flatten :=
  List.flatten_filter_not_isEmpty

section
variable {target : Int → Press} {read : Press → Option Int} {text : Text}

private theorem arrow_append (rows more : Board) :
    arrow text read (rows ++ more) = (arrow text read rows).or (arrow text read more) := by
  unfold arrow
  rw [List.flatten_append,List.findSome?_append]

private theorem arrow_kb (rows : Board) : arrow text read (kb rows) = arrow text read rows := by
  unfold arrow
  rw [flatten_kb]

private theorem arrow_between {rows arrows below : Board} (first : arrow text read rows = none)
    (last : arrow text read below = none) :
    arrow text read (kb (rows ++ arrows ++ below)) = arrow text read arrows := by
  rw [arrow_kb,arrow_append,arrow_append,first,last,Option.none_or,Option.or_none]

private theorem arrow_none {rows : Board}
    (silent : ∀ shown ∈ rows.flatten, shown.text = text → shown.button.press.bind read = none) :
    arrow text read rows = none := by
  unfold arrow
  rw [List.findSome?_eq_none_iff]
  intro shown member
  split
  next same => exact silent shown member same
  next => rfl

private theorem arrow_pageRow {page pages : Nat} (inside : page < pages)
    (reads : ∀ page, read (target page) = some page) (silent : read .noop = none) :
    (arrow "◀️".toList read (if pages > 1 then [pageRow page pages target] else []) =
      if 0 < page then some ((page : Int) - 1) else none) ∧
    arrow "▶️".toList read (if pages > 1 then [pageRow page pages target] else []) =
      if page + 1 < pages then some ((page : Int) + 1) else none := by
  by_cases several : pages > 1
  · have later : (page : Int) < pages - 1 ↔ page + 1 < pages := by omega
    by_cases first : 0 < page <;> by_cases last : page + 1 < pages <;>
      simp [arrow,pageRow,several,first,later,last,btn,Keyboards.Button.press,reads,silent]
  · have first : ¬0 < page := by omega
    have last : ¬page + 1 < pages := by omega
    rw [if_neg several,if_neg first,if_neg last]
    exact ⟨rfl,rfl⟩

private theorem mem_arrows {page pages : Nat} {shown : Labelled}
    (member : shown ∈ (if pages > 1 then [pageRow page pages target] else []).flatten) :
    ∃ text press, shown = btn text press ∧ (press = .noop ∨ ∃ page, press = target page) := by
  split at member
  next =>
    rw [List.flatten_singleton] at member
    unfold pageRow at member
    cases List.mem_append.mp member with
    | inl member =>
      cases List.mem_append.mp member with
      | inl back =>
        split at back
        next => exact ⟨_,_,List.mem_singleton.mp back,.inr ⟨_,rfl⟩⟩
        next => contradiction
      | inr number => exact ⟨_,_,List.mem_singleton.mp number,.inl rfl⟩
    | inr forward =>
      split at forward
      next => exact ⟨_,_,List.mem_singleton.mp forward,.inr ⟨_,rfl⟩⟩
      next => contradiction
  next => contradiction

private theorem filterMap_arrows {α : Type} {shows : Labelled → Option α} {page pages : Nat}
    (number : ∀ text, shows (btn text .noop) = none)
    (moves : ∀ text page, shows (btn text (target page)) = none) :
    (if pages > 1 then [pageRow page pages target] else []).flatten.filterMap shows = [] := by
  rw [List.filterMap_eq_nil_iff]
  intro shown member
  obtain ⟨text,press,rfl,rfl | ⟨page,rfl⟩⟩ := mem_arrows member
  · exact number text
  · exact moves text page

end

theorem entryVerb_mem (mode : Sftp.Mode) (entry : Sftp.Entry) :
    entryVerb mode entry ∈ ["del".toList,"cd".toList,"dl".toList] := by
  unfold entryVerb
  split
  next => simp
  next => split <;> simp

theorem entryVerb_ne (mode : Sftp.Mode) (entry : Sftp.Entry) :
    entryVerb mode entry ≠ "pg".toList := by
  intro same
  have known := entryVerb_mem mode entry
  rw [same] at known
  revert known
  decide

def entryRow (mode : Sftp.Mode) (entry : Sftp.Entry) : Text × Text × Sftp.Entry :=
  (entryLabel mode entry,entryVerb mode entry,entry)

theorem entryButtons_selects {entries : List Sftp.Entry} {start count : Nat}
    {entry : Sftp.Entry} {i : Nat}
    (member : (entry,i) ∈ ((entries.drop start).take count).zipIdx start) :
    entries[i]? = some entry := by
  obtain ⟨lower,found⟩ := List.mk_mem_zipIdx_iff_le_and_getElem?_sub.mp member
  rw [List.getElem?_take] at found
  split at found
  next =>
    rw [List.getElem?_drop,Nat.add_sub_cancel' lower] at found
    exact found
  next => contradiction

theorem chosen_entryButtons (entries : List Sftp.Entry) (start count : Nat) (mode : Sftp.Mode) :
    (entryButtons entries start count mode).filterMap (chosen entries) =
      ((entries.drop start).take count).map (entryRow mode) := by
  unfold entryButtons
  rw [List.filterMap_map]
  have each : ∀ pair ∈ ((entries.drop start).take count).zipIdx start,
      chosen entries (btn (entryLabel mode pair.1) (.nav (entryVerb mode pair.1) (some pair.2))) =
        some (entryRow mode pair.1) := by
    intro (entry,i) member
    unfold chosen btn
    dsimp only
    rw [if_neg (entryVerb_ne mode entry),Int.toNat_natCast,entryButtons_selects member]
    rfl
  calc
    _ = (((entries.drop start).take count).zipIdx start).filterMap fun pair =>
        some (entryRow mode pair.1) := List.filterMap_congr each
    _ = ((((entries.drop start).take count).zipIdx start).map Prod.fst).map (entryRow mode) := by
      rw [List.filterMap_eq_map',List.map_map]
      rfl
    _ = _ := by rw [List.zipIdx_map_fst]

private theorem flatten_singletons (row : List Labelled) :
    (row.map fun button => [button]).flatten = row := by
  rw [← List.flatMap_def,List.flatMap_singleton']

private theorem tools_plain (strings : Table) (lang : String) (atRoot : Bool) (mode : Sftp.Mode) :
    ∀ shown ∈ (tools strings lang atRoot mode).flatten,
      ∃ verb, shown.button = .callback (.nav verb none) := by
  cases atRoot with
  | true => simp [tools,btn]
  | false => simp [tools,btn]

theorem arrows_sftpKb (strings : Table) (lang : String) (entries : List Sftp.Entry)
    {page pages : Nat} (perPage : Nat) (atRoot : Bool) (mode : Sftp.Mode) (inside : page < pages) :
    arrow "◀️".toList browserPage (sftpKb strings lang entries page pages perPage atRoot mode) =
        (if 0 < page then some ((page : Int) - 1) else none) ∧
      arrow "▶️".toList browserPage (sftpKb strings lang entries page pages perPage atRoot mode) =
        if page + 1 < pages then some ((page : Int) + 1) else none := by
  have listed : ∀ text, arrow text browserPage
      ((entryButtons entries (page * perPage) perPage mode).map fun button => [button]) = none := by
    intro text
    apply arrow_none
    intro shown member _
    rw [flatten_singletons] at member
    obtain ⟨⟨entry,i⟩,_,rfl⟩ := List.mem_map.mp member
    exact if_neg (entryVerb_ne mode entry)
  have below : ∀ text, arrow text browserPage (tools strings lang atRoot mode) = none := by
    intro text
    apply arrow_none
    intro shown member _
    obtain ⟨verb,press⟩ := tools_plain strings lang atRoot mode shown member
    rw [press]
    exact ite_self none
  have reads : ∀ page, browserPage (.nav "pg".toList (some page)) = some page := fun _ => rfl
  have row := arrow_pageRow inside reads rfl
  unfold sftpKb
  rw [arrow_between (listed _) (below _),arrow_between (listed _) (below _)]
  exact row

theorem shown_sftpKb (strings : Table) (lang : String) (entries : List Sftp.Entry)
    (page pages perPage : Nat) (atRoot : Bool) (mode : Sftp.Mode) :
    (sftpKb strings lang entries page pages perPage atRoot mode).flatten.filterMap
      (chosen entries) = (chunk perPage entries page).map (entryRow mode) := by
  have arrows : (if pages > 1 then [pageRow page pages fun page => .nav "pg".toList (some page)]
      else []).flatten.filterMap (chosen entries) = [] :=
    filterMap_arrows (fun _ => rfl) fun _ _ => rfl
  have below : (tools strings lang atRoot mode).flatten.filterMap (chosen entries) = [] := by
    rw [List.filterMap_eq_nil_iff]
    intro shown member
    obtain ⟨verb,press⟩ := tools_plain strings lang atRoot mode shown member
    unfold chosen
    rw [press]
  unfold sftpKb
  rw [flatten_kb,List.flatten_append,List.flatten_append,flatten_singletons,List.filterMap_append,
    List.filterMap_append,chosen_entryButtons,arrows,below,List.append_nil,List.append_nil]
  rfl

private theorem render_board (strings : Table) (lang folder : String) (entries : List Sftp.Entry)
    (browser : Sftp.Browser) :
    (render strings lang folder entries browser).2 = sftpKb strings lang entries
      (clamp (pageCount Sftp.perPage entries.length) browser.page).toNat
      (pageCount Sftp.perPage entries.length) Sftp.perPage (browser.path == "/") browser.mode := by
  have clamped : Sftp.clampPage entries.length browser.page =
      clamp (pageCount Sftp.perPage entries.length) browser.page := by
    unfold Sftp.clampPage clamp pageCount
    rfl
  rw [← clamped]
  rfl

theorem shows_render (strings : Table) (lang folder : String) (entries : List Sftp.Entry)
    (browser : Sftp.Browser) :
    Shows (browserReader entries) Sftp.perPage (entries.map (entryRow browser.mode)) browser.page
      (render strings lang folder entries browser).2
      (clamp (pageCount Sftp.perPage entries.length) browser.page).toNat := by
  have lower := clamp_nonneg (pageCount Sftp.perPage entries.length) browser.page
  have upper := clamp_lt (pageCount_pos Sftp.perPage entries.length) browser.page
  have inside : (clamp (pageCount Sftp.perPage entries.length) browser.page).toNat <
      pageCount Sftp.perPage entries.length := by omega
  have arrows := arrows_sftpKb strings lang entries Sftp.perPage (browser.path == "/")
    browser.mode inside
  rw [render_board]
  unfold browserReader
  constructor
  · rwa [List.length_map]
  · intro low high
    rw [List.length_map] at high
    rw [clamp_of_lt low high]
    omega
  · dsimp only
    rw [chunk_map]
    exact shown_sftpKb strings lang entries _ _ Sftp.perPage _ _
  · dsimp only
    exact arrows.1
  · dsimp only
    rw [List.length_map]
    exact arrows.2

/-- An arrow of the browser: `cb_nav` stores its page, and `_render` of the same folder then
stores what `render` does. -/
theorem arrow_pressed {chat : Sftp.Chat} {id : Nat} {browser : Sftp.Browser}
    (found : chat.browsers.lookup id = some browser) (strings : Table) (lang : String)
    (page : Int) (entries : List Sftp.Entry) (after : Sftp.After) :
    (Sftp.listed id browser.path after (some entries)
      (Sftp.answered (.pg page) id browser chat)).browsers.lookup id =
      some (render strings lang browser.path entries {browser with page := page}).1 := by
  have paged : (Sftp.answered (.pg page) id browser chat).browsers.lookup id =
      some {browser with page := page} := by
    have stored :
        (Sftp.change id (fun state => {state with page := page}) chat).browsers.lookup id =
          some {browser with page := page} := by
      unfold Sftp.change
      rw [Library.Tables.lookup_updateWhere,found]
      simp
    unfold Sftp.answered Sftp.render
    dsimp only
    rw [stored]
    exact stored
  unfold Sftp.listed Sftp.change Sftp.wait
  dsimp only
  rw [Library.Tables.lookup_updateWhere,paged]
  simp [render]

private theorem flatten_pairs {α : Type} (row : List α) : (pairs row).flatten = row := by
  induction row using pairs.induct with
  | case1 => rfl
  | case2 button => rfl
  | case3 one two rest ih => exact congrArg (one :: two :: ·) ih

def hostRow (host : Int × PublicHost) : Text × Int := (hostLabel host.2,host.1)

private theorem mem_groups {groups : List (Int × GroupRow × Nat)} {gid : Int} {page : Nat}
    {shown : Labelled} (member : shown ∈
      (if gid = 0 ∧ page = 0 then pairs ((groups.take 12).map groupButton) else []).flatten) :
    ∃ group, shown = groupButton group := by
  split at member
  next =>
    rw [flatten_pairs] at member
    obtain ⟨group,_,rfl⟩ := List.mem_map.mp member
    exact ⟨group,rfl⟩
  next => contradiction

private theorem groupButton_text (group : Int × GroupRow × Nat) :
    (groupButton group).text.head? = some '🗂' := rfl

theorem arrows_hostsListKb (strings : Table) (lang : String)
    (groups : List (Int × GroupRow × Nat)) (hosts : List (Int × PublicHost)) (gid : Int)
    {page pages : Nat} (inside : page < pages) :
    arrow "◀️".toList (listPage gid) (hostsListKb strings lang groups hosts gid page pages) =
        (if 0 < page then some ((page : Int) - 1) else none) ∧
      arrow "▶️".toList (listPage gid) (hostsListKb strings lang groups hosts gid page pages) =
        if page + 1 < pages then some ((page : Int) + 1) else none := by
  have listed : ∀ text : Text, text.head? ≠ some '🗂' → arrow text (listPage gid)
      ((if gid = 0 ∧ page = 0 then pairs ((groups.take 12).map groupButton) else []) ++
        hosts.map fun host => [btn (hostLabel host.2) (.view host.1)]) = none := by
    intro text differs
    apply arrow_none
    intro shown member same
    rw [List.flatten_append] at member
    cases List.mem_append.mp member with
    | inl grouped =>
      obtain ⟨group,rfl⟩ := mem_groups grouped
      rw [← same] at differs
      exact absurd (groupButton_text group) differs
    | inr host =>
      obtain ⟨row,present,inside⟩ := List.mem_flatten.mp host
      obtain ⟨host,_,rfl⟩ := List.mem_map.mp present
      rw [List.mem_singleton.mp inside]
      rfl
  have below : ∀ text, arrow text (listPage gid) [hostTools strings lang gid] = none := by
    intro text
    apply arrow_none
    intro shown member _
    rw [List.flatten_singleton] at member
    cases List.mem_cons.mp member with
    | inl add =>
      rw [add]
      rfl
    | inr back =>
      rw [List.mem_singleton.mp back]
      by_cases whole : gid = 0
      · rw [if_pos whole]
        rfl
      · rw [if_neg whole]
        exact if_neg (Ne.symm whole)
  have reads : ∀ page, listPage gid (.hostList gid page) = some page := fun _ => if_pos rfl
  have row := arrow_pageRow inside reads rfl
  unfold hostsListKb
  rw [arrow_between (listed _ (by decide)) (below _),arrow_between (listed _ (by decide)) (below _)]
  exact row

theorem shown_hostsListKb (strings : Table) (lang : String)
    (groups : List (Int × GroupRow × Nat)) (hosts : List (Int × PublicHost)) (gid : Int)
    (page pages : Nat) :
    (hostsListKb strings lang groups hosts gid page pages).flatten.filterMap hostShown =
      hosts.map hostRow := by
  have grouped : (if gid = 0 ∧ page = 0 then pairs ((groups.take 12).map groupButton)
      else []).flatten.filterMap hostShown = [] := by
    rw [List.filterMap_eq_nil_iff]
    intro shown member
    obtain ⟨group,rfl⟩ := mem_groups member
    rfl
  have arrows : (if pages > 1 then [pageRow page pages (.hostList gid)]
      else []).flatten.filterMap hostShown = [] :=
    filterMap_arrows (fun _ => rfl) fun _ _ => rfl
  have listed : (hosts.map fun host => [btn (hostLabel host.2) (.view host.1)]).flatten.filterMap
      hostShown = hosts.map hostRow := by
    rw [← List.flatMap_def,← List.map_eq_flatMap,List.filterMap_map]
    exact congrFun List.filterMap_eq_map' hosts
  have below : (hostTools strings lang gid).filterMap hostShown = [] := by
    unfold hostTools
    split <;> rfl
  unfold hostsListKb
  rw [flatten_kb,List.flatten_append,List.flatten_append,List.flatten_append]
  rw [List.flatten_singleton,List.filterMap_append,List.filterMap_append,List.filterMap_append,
    grouped,arrows,listed,below]
  simp

theorem shows_cbList (strings : Table) (lang : String) (uid gid page : Int) (tables : Tables) :
    Shows (listReader gid) perPage ((listHosts uid (some gid) tables).map hostRow) page
      (cbList strings lang uid gid page tables).2
      (clamp (pageCount perPage (listHosts uid (some gid) tables).length) page).toNat := by
  unfold cbList
  dsimp only
  generalize listHosts uid (some gid) tables = hosts
  have lower := clamp_nonneg (pageCount perPage hosts.length) page
  have upper := clamp_lt (pageCount_pos perPage hosts.length) page
  have inside : (clamp (pageCount perPage hosts.length) page).toNat <
      pageCount perPage hosts.length := by omega
  have arrows := arrows_hostsListKb strings lang (if gid = 0 then listGroups uid tables else [])
    (chunk perPage hosts (clamp (pageCount perPage hosts.length) page).toNat) gid inside
  unfold listReader
  constructor
  · rwa [List.length_map]
  · intro low high
    rw [List.length_map] at high
    rw [clamp_of_lt low high]
    omega
  · dsimp only
    rw [chunk_map]
    exact shown_hostsListKb strings lang _ _ gid _ _
  · dsimp only
    exact arrows.1
  · dsimp only
    rw [List.length_map]
    exact arrows.2

theorem index_selects {strings : Table} {lang : String} {entries : List Sftp.Entry}
    {page pages perPage : Nat} {atRoot : Bool} {mode : Sftp.Mode} {shown : Labelled} {verb : Text}
    {index : Int}
    (member : shown ∈ (sftpKb strings lang entries page pages perPage atRoot mode).flatten)
    (press : shown.button = .callback (.nav verb (some index))) (entered : verb ≠ "pg".toList) :
    ∃ entry, 0 ≤ index ∧ entries[index.toNat]? = some entry ∧
      shown.text = entryLabel mode entry ∧ verb = entryVerb mode entry := by
  unfold sftpKb at member
  rw [flatten_kb,List.flatten_append,List.flatten_append,flatten_singletons] at member
  cases List.mem_append.mp member with
  | inl member =>
    cases List.mem_append.mp member with
    | inl listed =>
      obtain ⟨⟨entry,i⟩,present,rfl⟩ := List.mem_map.mp listed
      cases press
      exact ⟨entry,Int.natCast_nonneg i,entryButtons_selects present,rfl,rfl⟩
    | inr arrows =>
      obtain ⟨text,asked,rfl,noop | ⟨target,paged⟩⟩ := mem_arrows arrows
      · rw [noop] at press
        cases press
      · rw [paged] at press
        cases press
        contradiction
  | inr below =>
    obtain ⟨other,plain⟩ := tools_plain strings lang atRoot mode shown below
    rw [plain] at press
    cases press

/-- Pages partition the lists, and indices mean what is shown. Whatever page is asked for, one
that exists is shown, the arrows lead to pages that exist, and a walk along them from the first
page shows the whole list in order. In the browser an index selects, in the list that was stored
with the buttons, the entry that its button is about. -/
theorem pages_partition (strings : Table) (lang : String) :
    (∀ folder entries browser,
      let (state,board) := render strings lang folder entries browser
      state.entries = entries ∧
      (0 ≤ state.page ∧ state.page < pageCount Sftp.perPage entries.length) ∧
      (∀ shown ∈ board.flatten, ∀ verb index,
        shown.button = .callback (.nav verb (some index)) → verb ≠ "pg".toList →
          ∃ entry, 0 ≤ index ∧ state.entries[index.toNat]? = some entry ∧
            shown.text = entryLabel browser.mode entry ∧
            verb = if browser.mode = .delete then "del".toList
              else if entry.isDir then "cd".toList else "dl".toList) ∧
      Partition (browserReader entries) Sftp.perPage (entries.map (entryRow browser.mode))
        fun page => (render strings lang folder entries {browser with page := page}).2) ∧
    ∀ uid gid tables, Partition (listReader gid) perPage
      ((listHosts uid (some gid) tables).map hostRow)
      fun page => (cbList strings lang uid gid page tables).2 := by
  constructor
  · intro folder entries browser
    refine ⟨rfl,⟨?_,?_⟩,?_,?_⟩
    · exact clamp_nonneg (pageCount Sftp.perPage entries.length) browser.page
    · exact clamp_lt (pageCount_pos Sftp.perPage entries.length) browser.page
    · intro shown member verb index press entered
      exact index_selects member press entered
    · apply partition_of_shows (by decide)
      intro requested
      exact ⟨_,shows_render strings lang folder entries {browser with page := requested}⟩
  · intro uid gid tables
    apply partition_of_shows (by decide)
    intro requested
    exact ⟨_,shows_cbList strings lang uid gid requested tables⟩

end AtronixX.Pagination
