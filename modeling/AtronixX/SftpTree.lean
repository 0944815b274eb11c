import Mathlib.Data.String.Basic
import AtronixX.SftpUpload

/-! The paths of the SFTP browser as places in a tree. A folder is the stack of the names by
which it was entered from the root, and every path that the server is asked about is that of a
folder or of a child of one. What it answers goes through `SFTPBrowser.listdir`. -/
namespace AtronixX.SftpTree
open Library.Transition Library.Tables Sftp
open SftpUpload (component Cleaned single_of_component)

def absolute (names : List String) : String := names.foldl join "/"

/-- The path of a folder. -/
def Tree (path : String) : Prop :=
  ∃ names, (∀ name ∈ names, component name = true) ∧ path = absolute names

theorem tree_root : Tree "/" := ⟨[],by simp,rfl⟩

theorem Tree.join {folder name : String} (tree : Tree folder) (named : component name = true) :
    Tree (join folder name) := by
  obtain ⟨names,good,rfl⟩ := tree
  refine ⟨names ++ [name],?_,?_⟩
  · intro other member
    rcases List.mem_append.mp member with member | member
    · exact good other member
    · rwa [List.mem_singleton.mp member]
  · rw [absolute,absolute,List.foldl_append]
    rfl

theorem nonempty_of_component {name : String} (named : component name = true) :
    name.toList ≠ [] := by
  intro empty
  have same : name = "" := String.toList_inj.mp empty
  rw [same] at named
  contradiction

theorem last_join (folder : String) {name : String} (named : component name = true) :
    ∃ letter, (join folder name).toList.getLast? = some letter ∧ letter ≠ '/' := by
  have single := single_of_component named
  obtain ⟨letter,last⟩ := Option.ne_none_iff_exists'.mp
    (mt List.getLast?_eq_none_iff.mp (nonempty_of_component named))
  refine ⟨letter,?_,?_⟩
  · rw [join_single folder single,String.toList_append,List.getLast?_append,last]
    rfl
  · rintro rfl
    exact single (List.mem_of_getLast? last)

theorem Tree.ends {folder : String} (tree : Tree folder) : folder = "/" ∨
    ∃ letter, folder.toList.getLast? = some letter ∧ letter ≠ '/' := by
  obtain ⟨names,good,rfl⟩ := tree
  rcases List.eq_nil_or_concat names with rfl | ⟨names,name,rfl⟩
  · exact .inl rfl
  · refine .inr ?_
    rw [absolute,List.concat_eq_append,List.foldl_append]
    exact last_join _ (good name (by simp))

theorem rstrip_of_last {path : List Char} {letter : Char} (last : path.getLast? = some letter)
    (differs : letter ≠ '/') : rstrip path = path := by
  rw [rstrip,List.rdropWhile_eq_self_iff]
  intro nonempty slash
  rw [List.getLast?_eq_some_getLast nonempty] at last
  have same : path.getLast nonempty = '/' := by simpa using slash
  rw [same] at last
  exact differs (Option.some.inj last).symm

theorem toList_join_empty {folder : String} {letter : Char}
    (last : folder.toList.getLast? = some letter) (differs : letter ≠ '/') :
    (join folder "").toList = folder.toList ++ ['/'] := by
  unfold Sftp.join
  rw [if_neg (by simp),if_neg (by simpa [last] using differs)]
  simp

theorem rdropWhile_join (folder : String) {name : String} (single : '/' ∉ name.toList) :
    (join folder name).toList.rdropWhile (fun letter => letter ≠ '/') =
      (join folder "").toList := by
  have letters : ∀ letter ∈ name.toList.reverse, decide (letter ≠ '/') = true := by
    intro letter member
    have differs : letter ≠ '/' := by
      rintro rfl
      exact single (List.mem_reverse.mp member)
    simpa using differs
  rw [join_single folder single,String.toList_append,List.rdropWhile,List.reverse_append,
    List.dropWhile_append_of_pos letters]
  cases shape : (join folder "").toList.reverse with
  | nil => simpa using shape
  | cons letter rest =>
    have slash : letter = '/' := by
      apply slash_before folder
      rw [← List.head?_reverse,shape]
      rfl
    rw [List.dropWhile_cons_of_neg (by simp [slash]),← shape,List.reverse_reverse]

theorem parent_join {folder name : String} (tree : Tree folder) (named : component name = true) :
    parent (join folder name) = folder := by
  have single := single_of_component named
  obtain ⟨letter,last,differs⟩ := last_join folder named
  have head : dirname (String.ofList (rstrip (join folder name).toList)) =
      String.ofList (if (join folder "").toList.all (· = '/') then (join folder "").toList
        else rstrip (join folder "").toList) := by
    rw [rstrip_of_last last differs,String.ofList_toList]
    unfold dirname
    dsimp only
    rw [rdropWhile_join folder single]
  have up : dirname (String.ofList (rstrip (join folder name).toList)) = folder := by
    rw [head]
    rcases tree.ends with rfl | ⟨letter,last,differs⟩
    · rfl
    · have some_ : letter ∈ folder.toList := List.mem_of_getLast? last
      rw [toList_join_empty last differs,if_neg]
      · rw [rstrip,List.rdropWhile_concat_pos _ _ _ (by simp)]
        exact congrArg String.ofList (rstrip_of_last last differs) |>.trans String.ofList_toList
      · rw [List.all_eq_true]
        intro slashes
        exact differs (by simpa using slashes letter (List.mem_append_left _ some_))
  unfold parent
  dsimp only
  rw [up,if_neg]
  rintro rfl
  rcases tree.ends with empty | ⟨letter,last,_⟩ <;> contradiction

theorem parent_root : parent "/" = "/" := by decide

theorem Tree.parent {folder : String} (tree : Tree folder) : Tree (parent folder) := by
  obtain ⟨names,good,rfl⟩ := tree
  rcases List.eq_nil_or_concat names with rfl | ⟨names,name,rfl⟩
  · exact parent_root ▸ tree_root
  · have tree : Tree (absolute names) :=
      ⟨names,fun other member => good other (by simp [member]),rfl⟩
    rw [absolute,List.concat_eq_append,List.foldl_append]
    have up : Sftp.parent (Sftp.join (absolute names) name) = absolute names :=
      parent_join tree (good name (by simp))
    exact up.symm ▸ tree

structure Name where
  filename : String
  permissions : Option Nat
  size : Option Nat

/-- The bits of a mode that `stat.S_IFMT` takes. -/
def format (perm : Nat) : Nat := perm &&& 0o170000

def isDir (perm : Nat) : Bool := format perm == 0o040000

def isLink (perm : Nat) : Bool := format perm == 0o120000

def entryOf (name : Name) : Entry :=
  let perm := name.permissions.getD 0
  ⟨name.filename,isDir perm || isLink perm,isLink perm,name.size.getD 0⟩

def maxEntries : Nat := 1000

section
variable (lower : String → String)

/-- The keys of the sort: folders, then names in lower case. -/
def precedes (one other : Entry) : Bool :=
  (one.isDir && !other.isDir) ||
    (one.isDir == other.isDir && decide (lower one.name ≤ lower other.name))

def listdir (readdir : List Name) : List Entry :=
  (((readdir.filter (fun name => name.filename != "." && name.filename != "..")).map
    entryOf).mergeSort (precedes lower)).take maxEntries

structure Listing (entries : List Entry) : Prop where
  named : ∀ entry ∈ entries, component entry.name = true
  linked : ∀ entry ∈ entries, entry.isLink = true → entry.isDir = true
  sorted : entries.Pairwise (fun one other => precedes lower one other = true)
  bounded : entries.length ≤ maxEntries

theorem listing_nil : Listing lower [] := ⟨by simp,by simp,.nil,by simp⟩

theorem precedes_iff {one other : Entry} : precedes lower one other = true ↔
    (one.isDir = true ∧ other.isDir = false) ∨
      (one.isDir = other.isDir ∧ lower one.name ≤ lower other.name) := by
  simp [precedes]

theorem precedes_trans (one two three : Entry) (first : precedes lower one two = true)
    (second : precedes lower two three = true) : precedes lower one three = true := by
  rw [precedes_iff] at *
  rcases first with ⟨folder,file⟩ | ⟨kind,low⟩
  · left
    rcases second with ⟨absurd,_⟩ | ⟨same,_⟩
    · exact ⟨folder,by simp [absurd] at file⟩
    · exact ⟨folder,same ▸ file⟩
  · rcases second with ⟨folder,file⟩ | ⟨same,high⟩
    · exact .inl ⟨kind ▸ folder,file⟩
    · exact .inr ⟨kind.trans same,le_trans low high⟩

theorem precedes_total (one two : Entry) :
    (precedes lower one two || precedes lower two one) = true := by
  rw [Bool.or_eq_true,precedes_iff,precedes_iff]
  rcases le_total (lower one.name) (lower two.name) with low | low <;>
    cases one.isDir <;> cases two.isDir <;> simp [low]

theorem mem_listdir {readdir : List Name} {entry : Entry}
    (member : entry ∈ listdir lower readdir) : ∃ name ∈ readdir,
      name.filename ≠ "." ∧ name.filename ≠ ".." ∧ entryOf name = entry := by
  have sorted := List.mem_of_mem_take member
  obtain ⟨name,kept,same⟩ := List.mem_map.mp (List.mem_mergeSort.mp sorted)
  obtain ⟨there,dotless⟩ := List.mem_filter.mp kept
  simp only [Bool.and_eq_true,bne_iff_ne] at dotless
  exact ⟨name,there,dotless.1,dotless.2,same⟩

/-- A name that a server can give. -/
def spelled (name : String) : Bool :=
  !(name == "" || name.toList.any (fun letter => letter == '/' || letter == Char.ofNat 0))

theorem component_of_spelled {name : String} (good : spelled name = true) (dot : name ≠ ".")
    (dots : name ≠ "..") : component name = true := by
  simp only [spelled,Bool.not_or,Bool.and_eq_true] at good
  simp [component,good,dot,dots]

theorem listing_listdir {readdir : List Name}
    (good : ∀ name ∈ readdir, spelled name.filename = true) :
    Listing lower (listdir lower readdir) where
  named entry member := by
    obtain ⟨name,there,dot,dots,rfl⟩ := mem_listdir lower member
    exact component_of_spelled (good name there) dot dots
  linked entry member link := by
    obtain ⟨name,there,dot,dots,rfl⟩ := mem_listdir lower member
    have linked : isLink (name.permissions.getD 0) = true := link
    simp [entryOf,linked]
  sorted := (List.pairwise_mergeSort (precedes_trans lower) (precedes_total lower) _).sublist
    (List.take_sublist _ _)
  bounded := List.length_take_le _ _

end

/-- `realpath` gives the path of a folder, and a listing comes from names that can be. -/
def Honest (lower : String → String) (_ : Chat) : Event → Prop
  | .launch path _ => Tree path
  | .listed (some entries) => ∃ readdir,
    (∀ name ∈ readdir, spelled name.filename = true) ∧ entries = listdir lower readdir
  | .taskListed _ (some entries) => ∃ readdir,
    (∀ name ∈ readdir, spelled name.filename = true) ∧ entries = listdir lower readdir
  | _ => True

def Good (lower : String → String) (browser : Browser) : Prop :=
  Tree browser.path ∧ Listing lower browser.entries

/-- The path that a failed listing puts back. -/
def returns : Option Handler → Option String
  | some (.listing _ _ (.entering old)) => some old
  | some (.failing _ (.entering old)) => some old
  | _ => none

structure Kept (lower : String → String) (chat : Chat) : Prop where
  browsers : ∀ id browser, chat.browsers.lookup id = some browser → Good lower browser
  back : ∀ old, returns chat.handler = some old → Tree old
  closing : ∀ id path mid, chat.tasks.lookup id = some (.closing path mid) → Tree path
  fetching : ∀ id browser name folder, chat.tasks.lookup id = some (.fetching browser name folder) →
    Cleaned name
  removals : ∀ removal ∈ chat.removals, Tree removal.folder ∧ Listing lower removal.entries ∧
    ∃ entry, removal.entries[removal.confirm.index]? = some entry ∧
      removal.path = join removal.folder entry.name ∧
      removal.recursive = (entry.isDir && !entry.isLink)
  uploads : ∀ upload ∈ chat.uploads, ∃ folder, Tree folder ∧ Cleaned upload.name ∧
    upload.path = join folder upload.name

section
variable {lower : String → String} {chat after : Chat} {id : Nat}

theorem Kept.idle : Kept lower idle where
  browsers id browser found := by contradiction
  back old is := by contradiction
  closing id path mid found := by contradiction
  fetching id browser name folder found := by contradiction
  removals removal member := by contradiction
  uploads upload member := by contradiction

theorem Kept.same (kept : Kept lower chat) (browsers : after.browsers = chat.browsers)
    (tasks : after.tasks = chat.tasks) (removals : after.removals = chat.removals)
    (uploads : after.uploads = chat.uploads) (free : returns after.handler = none) :
    Kept lower after where
  browsers := browsers ▸ kept.browsers
  back old is := by
    rw [free] at is
    contradiction
  closing := tasks ▸ kept.closing
  fetching := tasks ▸ kept.fetching
  removals := removals ▸ kept.removals
  uploads := uploads ▸ kept.uploads

theorem Kept.change (kept : Kept lower chat) (write : Browser → Browser)
    (good : ∀ browser, Good lower browser → Good lower (write browser)) :
    Kept lower (change id write chat) := by
  refine ⟨?_,kept.back,kept.closing,kept.fetching,kept.removals,kept.uploads⟩
  intro other browser found
  rcases lookup_updateKey_some found with ⟨_,before,there,rfl⟩ | ⟨_,there⟩
  · exact good before (kept.browsers _ before there)
  · exact kept.browsers other browser there

theorem Kept.insertTask (kept : Kept lower chat) (task : Task) (next : Nat)
    (closing : ∀ path mid, task = .closing path mid → Tree path)
    (clean : ∀ browser name folder, task = .fetching browser name folder → Cleaned name) :
    Kept lower {chat with tasks := chat.tasks.insert id task, nextTask := next} := by
  refine ⟨kept.browsers,kept.back,?_,?_,kept.removals,kept.uploads⟩
  · intro other path mid found
    rcases lookup_insert_some found with ⟨_,same⟩ | ⟨_,found⟩
    · exact closing path mid same.symm
    · exact kept.closing other path mid found
  · intro other browser name folder found
    rcases lookup_insert_some found with ⟨_,same⟩ | ⟨_,found⟩
    · exact clean browser name folder same.symm
    · exact kept.fetching other browser name folder found

theorem Kept.endTask (kept : Kept lower chat) : Kept lower (endTask id chat) where
  browsers := kept.browsers
  back := kept.back
  closing _ path mid found := kept.closing _ path mid (lookup_erase_some found).2
  fetching _ browser name folder found :=
    kept.fetching _ browser name folder (lookup_erase_some found).2
  removals := kept.removals
  uploads := kept.uploads

theorem Kept.render (kept : Kept lower chat) (follows : After)
    (back : ∀ old, follows = .entering old → Tree old) : Kept lower (render id follows chat) := by
  unfold Sftp.render
  split
  next => exact kept.same rfl rfl rfl rfl rfl
  next browser _ =>
    refine ⟨kept.browsers,?_,kept.closing,kept.fetching,kept.removals,kept.uploads⟩
    intro old is
    cases follows with
    | plain => contradiction
    | entering path => exact back old (congrArg After.entering (Option.some.inj is))

theorem Kept.plain (kept : Kept lower chat) : Kept lower (Sftp.render id .plain chat) :=
  kept.render .plain fun old is => by contradiction

theorem Kept.install (kept : Kept lower chat) {path : String} (tree : Tree path) (mid : Int) :
    Kept lower (install path mid chat) := by
  refine ⟨?_,kept.back,kept.closing,kept.fetching,kept.removals,kept.uploads⟩
  intro other browser found
  rcases lookup_insert_some found with ⟨_,rfl⟩ | ⟨_,found⟩
  · exact ⟨tree,listing_nil lower⟩
  · exact kept.browsers other browser found

theorem Kept.launch (kept : Kept lower chat) {path : String} (tree : Tree path) (mid : Int) :
    Kept lower (launch path mid chat) := by
  unfold Sftp.launch
  split
  next =>
    have closed : Kept lower {chat with current := none} :=
      ⟨kept.browsers,kept.back,kept.closing,kept.fetching,kept.removals,kept.uploads⟩
    refine closed.insertTask (.closing path mid) _ ?_ ?_
    · rintro _ _ ⟨⟩
      exact tree
    · intro _ _ _ is
      contradiction
  next =>
    refine (kept.install tree mid).insertTask (.listing _ path false) _ ?_ ?_
    · intro _ _ is
      contradiction
    · intro _ _ _ is
      contradiction

theorem Kept.answered (kept : Kept lower chat) {browser : Browser} (good : Good lower browser)
    (button : Button) : Kept lower (answered button id browser chat) := by
  obtain ⟨tree,listing⟩ := good
  cases button with
  | uph => exact kept.same rfl rfl rfl rfl rfl
  | exit => exact kept.same rfl rfl rfl rfl rfl
  | md => exact kept.same rfl rfl rfl rfl rfl
  | rf =>
    have dropped : Kept lower {chat with flow := none} :=
      ⟨kept.browsers,kept.back,kept.closing,kept.fetching,kept.removals,kept.uploads⟩
    exact dropped.plain
  | pg page => exact (kept.change (fun state => {state with page := page}) fun _ good => good).plain
  | up =>
    refine Kept.plain (kept.change
      (fun state => {state with path := parent state.path, page := 0}) ?_)
    intro state good
    refine ⟨?_,good.2⟩
    dsimp only
    exact good.1.parent
  | dm =>
    exact Kept.plain (kept.change (fun state =>
      {state with mode := if state.mode = .delete then .browse else .delete}) fun _ good => good)
  | cd index =>
    simp only [Sftp.answered]
    split
    next => exact kept.plain
    next entry there =>
      have named := listing.named entry (List.mem_of_getElem? there)
      refine Kept.render (kept.change
        (fun state => {state with path := join browser.path entry.name, page := 0}) ?_) _ ?_
      · intro state good
        exact ⟨tree.join named,good.2⟩
      · rintro _ ⟨⟩
        exact tree
  | dl index =>
    simp only [Sftp.answered]
    split
    next => exact kept.plain
    next entry there =>
      unfold startDownload
      split
      next => exact kept.same rfl rfl rfl rfl rfl
      next =>
        refine Kept.same (kept.insertTask (.transferring id) (chat.nextTask + 1) ?_ ?_)
          rfl rfl rfl rfl rfl
        · intro _ _ is
          contradiction
        · intro _ _ _ is
          contradiction
  | del index =>
    simp only [Sftp.answered]
    split
    next => exact kept.plain
    next => exact kept.same rfl rfl rfl rfl rfl
  | delyes confirm =>
    simp only [Sftp.answered]
    split
    next => exact kept.plain
    next entry there =>
      refine ⟨kept.browsers,?_,kept.closing,kept.fetching,?_,kept.uploads⟩
      · intro old is
        contradiction
      · intro removal called
        rcases List.mem_cons.mp called with rfl | called
        · exact ⟨tree,listing,entry,there,rfl,rfl⟩
        · exact kept.removals removal called

theorem Kept.proceed (kept : Kept lower chat) {handler : Handler}
    (running : chat.handler = some handler) (went : proceed handler chat = some after) :
    Kept lower after := by
  cases handler with
  | answering button id =>
    obtain ⟨browser,there,rfl⟩ := Option.map_eq_some_iff.mp went
    exact kept.answered (kept.browsers id browser there) button
  | failing id follows =>
    cases follows with
    | plain =>
      cases Option.some.inj went
      exact kept.same rfl rfl rfl rfl rfl
    | entering old =>
      cases Option.some.inj went
      have tree : Tree old := kept.back old (by rw [running]; rfl)
      refine Kept.same (kept.change (fun state => {state with path := old}) ?_) rfl rfl rfl rfl rfl
      intro state good
      exact ⟨tree,good.2⟩
  | removing id =>
    cases Option.some.inj went
    exact kept.plain
  | naming name browser mid =>
    cases Option.some.inj went
    unfold Sftp.named
    split
    next => exact kept.same rfl rfl rfl rfl rfl
    next id =>
      split
      next =>
        have dropped : Kept lower {chat with flow := none} :=
          ⟨kept.browsers,kept.back,kept.closing,kept.fetching,kept.removals,kept.uploads⟩
        exact Kept.same (dropped.change (fun state => {state with mid := mid}) fun _ good => good)
          rfl rfl rfl rfl rfl
      next => exact kept.same rfl rfl rfl rfl rfl
  | making id =>
    cases Option.some.inj went
    exact kept.plain
  | finishing =>
    cases Option.some.inj went
    exact kept.same rfl rfl rfl rfl rfl
  | listing id folder follows => contradiction
  | confirming confirm => contradiction
  | asking => contradiction

theorem Good.store {browser : Browser} (good : Good lower browser) (folder : String)
    {entries : List Entry} (listing : Listing lower entries) :
    Good lower (browser.store folder entries) :=
  ⟨good.1,listing⟩

theorem Kept.taskProceed (kept : Kept lower chat) {id : Nat} {task : Task}
    (found : chat.tasks.lookup id = some task) (went : taskProceed id task chat = some after) :
    Kept lower after := by
  cases task with
  | closing path mid =>
    cases Option.some.inj went
    refine (kept.install (kept.closing id path mid found) mid).insertTask
      (.listing _ path false) _ ?_ ?_
    · intro _ _ is
      contradiction
    · intro _ _ _ is
      contradiction
  | fetching browser name folder =>
    obtain ⟨state,present,rfl⟩ := Option.map_eq_some_iff.mp went
    have clean := kept.fetching id browser name folder found
    have uploaded : Kept lower {chat with
        uploads := ⟨join state.path name,name,folder⟩ :: chat.uploads} := by
      refine ⟨kept.browsers,kept.back,kept.closing,kept.fetching,kept.removals,?_⟩
      intro upload called
      rcases List.mem_cons.mp called with rfl | called
      · exact ⟨state.path,(kept.browsers browser state present).1,clean,rfl⟩
      · exact kept.uploads upload called
    exact uploaded.insertTask (.transferring browser) _ (by simp) (by simp)
  | transferring browser =>
    cases Option.some.inj went
    unfold transferred
    split
    · split
      · exact kept.endTask
      · exact kept.insertTask (.listing browser _ true) _ (by simp) (by simp)
    · exact kept.endTask
  | finishing =>
    cases Option.some.inj went
    exact kept.endTask
  | listing browser folder newMessage => contradiction
  | sending browser => contradiction

theorem Kept.step {event : Event} (kept : Kept lower chat) (honest : Honest lower chat event)
    (stepped : step chat event = some after) : Kept lower after := by
  cases taken_of_step stepped with
  | nav mid button free held =>
    unfold cbNav
    split
    next => exact kept.same rfl rfl rfl rfl rfl
    next id _ =>
      exact Kept.same (kept.change (fun state => {state with mid := mid}) fun _ good => good)
        rfl rfl rfl rfl rfl
  | text name mid free flow => exact kept.same rfl rfl rfl rfl rfl
  | document fileName uniqueId size after free went =>
    obtain ⟨id,_,rest⟩ := Option.bind_eq_some_iff.mp went
    obtain ⟨browser,_,went⟩ := Option.bind_eq_some_iff.mp rest
    cases Option.some.inj went
    split
    next => exact kept.same rfl rfl rfl rfl rfl
    next =>
      refine kept.insertTask (.fetching id (uploadName fileName uniqueId) browser.path) _ ?_ ?_
      · intro _ _ is
        contradiction
      · rintro _ _ _ ⟨⟩
        exact SftpUpload.cleaned_uploadName fileName uniqueId
  | launch path mid => exact kept.launch honest mid
  | close =>
    exact ⟨kept.browsers,kept.back,kept.closing,kept.fetching,kept.removals,kept.uploads⟩
  | drop =>
    exact ⟨kept.browsers,kept.back,kept.closing,kept.fetching,kept.removals,kept.uploads⟩
  | proceed handler after running went => exact kept.proceed running went
  | listed result id folder follows running =>
    cases result with
    | none =>
      refine ⟨kept.browsers,?_,kept.closing,kept.fetching,kept.removals,kept.uploads⟩
      intro old is
      refine kept.back old ?_
      rw [running]
      cases follows with
      | plain => contradiction
      | entering path => exact is
    | some entries =>
      obtain ⟨readdir,good,rfl⟩ := honest
      exact Kept.same (kept.change (Browser.store folder (listdir lower readdir))
        fun _ kept => kept.store folder (listing_listdir lower good)) rfl rfl rfl rfl rfl
  | shown mid handler after running went =>
    unfold Sftp.shown at went
    split at went
    next =>
      cases Option.some.inj went
      exact kept.same rfl rfl rfl rfl rfl
    next =>
      cases Option.some.inj went
      exact kept.same rfl rfl rfl rfl rfl
    next => contradiction
  | fail handler running may => exact kept.same rfl rfl rfl rfl rfl
  | taskProceed id task after found went => exact kept.taskProceed found went
  | taskFail id browser name folder found =>
    exact kept.insertTask (.transferring browser) _ (by simp) (by simp)
  | taskListed id browser folder newMessage result found =>
    cases result with
    | none => exact kept.insertTask .finishing _ (by simp) (by simp)
    | some entries =>
      obtain ⟨readdir,good,rfl⟩ := honest
      have stored :
          Kept lower (Sftp.change browser (Browser.store folder (listdir lower readdir)) chat) :=
        kept.change _ fun _ kept => kept.store folder (listing_listdir lower good)
      cases newMessage
      · exact stored.insertTask .finishing _ (by simp) (by simp)
      · exact stored.insertTask (.sending browser) _ (by simp) (by simp)
  | taskSent id browser mid found =>
    cases mid with
    | none => exact kept.endTask
    | some mid =>
      exact Kept.insertTask (kept.change (fun state => {state with mid := mid}) fun _ good => good)
        .finishing _ (by simp) (by simp)
  | cancel id => exact kept.endTask

end

/-- A removal: of an entry of the list that was looked in, recursively if it is a directory. -/
def Removed (lower : String → String) (removal : Removal) : Prop :=
  Tree removal.folder ∧ Listing lower removal.entries ∧
    ∃ entry, removal.entries[removal.confirm.index]? = some entry ∧
      removal.path = join removal.folder entry.name ∧ parent removal.path = removal.folder ∧
        (removal.recursive = true ↔ entry.isDir = true ∧ entry.isLink = false)

/-- In every run of a chat with a server whose `realpath` and names are proper. -/
theorem paths_in_tree (lower : String → String) (chat : Chat)
    (reached : Reach step (Honest lower) idle chat) :
    (∀ id browser, chat.browsers.lookup id = some browser →
      Tree browser.path ∧ Listing lower browser.entries ∧
        ∀ entry ∈ browser.entries, Tree (join browser.path entry.name) ∧
          parent (join browser.path entry.name) = browser.path) ∧
    (∀ removal ∈ chat.removals, Removed lower removal) ∧
    ∀ upload ∈ chat.uploads, ∃ folder, Tree folder ∧ upload.path = join folder upload.name ∧
      basename upload.path = upload.name ∧ Cleaned upload.name := by
  have kept : Kept lower chat := reached.invariant (Kept lower) .idle
    fun _ _ _ kept honest taken => kept.step honest taken
  refine ⟨?_,?_,?_⟩
  · intro id browser found
    obtain ⟨tree,listing⟩ := kept.browsers id browser found
    refine ⟨tree,listing,?_⟩
    intro entry member
    have named := listing.named entry member
    exact ⟨tree.join named,parent_join tree named⟩
  · intro removal called
    obtain ⟨tree,listing,entry,there,path,recursive⟩ := kept.removals removal called
    refine ⟨tree,listing,entry,there,path,?_,?_⟩
    · rw [path]
      exact parent_join tree (listing.named entry (List.mem_of_getElem? there))
    · simp [recursive]
  · intro upload called
    obtain ⟨folder,tree,clean,path⟩ := kept.uploads upload called
    refine ⟨folder,tree,path,?_,clean⟩
    rw [path]
    exact basename_join folder clean.single

def home : List Name := [⟨".",some 0o40755,none⟩,⟨"..",some 0o40755,none⟩,⟨"sub",some 0o40755,none⟩]

def sub : Entry := ⟨"sub",true,false,0⟩

/-- A folder is entered and left, a document comes in, and the folder is deleted. -/
def visit : List Event :=
  [.launch "/home" 1,.taskListed 0 (some [sub]),.taskProceed 0,.nav 1 (.cd 0),.proceed,
    .listed (some []),.proceed,.nav 1 .up,.proceed,.listed (some [sub]),.proceed,
    .document (some "../.ssh") "x" 1,.taskProceed 1,.nav 1 (.del 0),.proceed,.shown 2,
    .nav 2 (.delyes ⟨0,sub,"/home",[sub]⟩),.proceed]

theorem visit_honest : ∀ event ∈ visit, ∀ chat, Honest (fun name => name) chat event := by
  have seen : ∃ readdir, (∀ name ∈ readdir, spelled name.filename = true) ∧
      [sub] = listdir (fun name => name) readdir := by
    refine ⟨home,by decide,?_⟩
    simp [listdir,home,sub,entryOf,isDir,isLink,format,maxEntries]
  have empty : ∃ readdir, (∀ name ∈ readdir, spelled name.filename = true) ∧
      [] = listdir (fun name => name) readdir := ⟨[],by simp,by simp [listdir]⟩
  have root : Tree "/home" := ⟨["home"],by decide,by decide⟩
  intro event member chat
  simp only [visit,List.mem_cons,List.not_mem_nil,or_false] at member
  rcases member with rfl | rfl | rfl | rfl | rfl | rfl | rfl | rfl | rfl | rfl | rfl | rfl | rfl |
    rfl | rfl | rfl | rfl | rfl
  all_goals first | exact root | exact seen | exact empty | trivial

theorem paths_in_tree_visit : ∃ chat, visit.foldlM step idle = some chat ∧
    chat.removals.map Removal.path = ["/home/sub"] ∧ chat.uploads.map Upload.path = ["/home/.ssh"] ∧
    ∀ removal ∈ chat.removals, Removed (fun name => name) removal := by
  obtain ⟨chat,ran,removals,uploads⟩ : ∃ chat, visit.foldlM step idle = some chat ∧
      chat.removals.map Removal.path = ["/home/sub"] ∧
      chat.uploads.map Upload.path = ["/home/.ssh"] := ⟨_,rfl,rfl,rfl⟩
  exact ⟨chat,ran,removals,uploads,
    (paths_in_tree (fun name => name) chat (reach_of_met visit visit_honest ran)).2.1⟩

end AtronixX.SftpTree
