import AtronixX.Library.Markup

/-! `locales/strings.py`: the tables of texts in two languages, and `t`, which escapes what it
puts into them unless that is `Raw`. -/
namespace AtronixX.Strings
open Library.Markup

abbrev Text := List Char

/-- What `str.format` reads in a template; the templates of the tables have plain fields only. -/
inductive Part
  | literal (text : Text)
  | field (name : String)
  deriving DecidableEq, Repr

abbrev Template := List Part

/-- The template as the table has it, where a brace of its own stands doubled. -/
def source (template : Template) : Text := template.flatMap fun
  | .literal text =>
    text.flatMap fun char => if char = '{' ∨ char = '}' then [char,char] else [char]
  | .field name => '{' :: name.toList ++ ['}']

abbrev Table := String → Option (Template × Template)

inductive Value
  | str (text : Text)
  | raw (text : Text)
  deriving DecidableEq, Repr

abbrev Kw := List (String × Value)

/-- The value in `safe`. -/
def Value.safe : Value → Text
  | .str text => escape false text
  | .raw text => text

/-- `str.format`; `none` is its `KeyError`. -/
def format (kw : Kw) : Template → Option Text
  | [] => some []
  | .literal text :: rest => (format kw rest).map fun after => text ++ after
  | .field name :: rest => match kw.lookup name,format kw rest with
    | some value,some after => some (value.safe ++ after)
    | _,_ => none

def choose (lang : String) (entry : Template × Template) : Template :=
  if lang = "fa" then entry.1 else entry.2

def t (strings : Table) (key lang : String) (kw : Kw) : Text :=
  match strings key with
  | none => key.toList
  | some entry =>
    let text := choose lang entry
    if kw.isEmpty then source text
    else match format kw text with
      | none => source text
      | some filled => filled

section
variable (inner : Text → List Text)

/-- The values in a value; `inner` has those of a `Raw`. -/
def Value.shown : Value → List Text
  | .str text => [text]
  | .raw text => inner text

def shown (kw : Kw) : Template → List Text
  | [] => []
  | .literal _ :: rest => shown kw rest
  | .field name :: rest => ((kw.lookup name).elim [] (Value.shown inner)) ++ shown kw rest

def tShown (strings : Table) (key lang : String) (kw : Kw) : List Text :=
  match strings key with
  | none => []
  | some entry =>
    let text := choose lang entry
    if kw.isEmpty ∨ format kw text = none then [] else shown inner kw text

end

/-- What a text of the table may have around its values, and a text that is shown as it is. -/
inductive Written (strings : Table) (keys : Set String) : Text → Prop
  | literal {key lang : String} {entry : Template × Template} {text : Text} :
    strings key = some entry → .literal text ∈ choose lang entry → Written strings keys text
  | source {key lang : String} {entry : Template × Template} :
    strings key = some entry → Written strings keys (source (choose lang entry))
  /-- A key that the table does not have. -/
  | key {key : String} : key ∈ keys → Written strings keys key.toList

variable {fixed : Text → Prop} {inner : Text → List Text} {kw : Kw}

theorem mem_of_lookup {name : String} {value : Value} (found : kw.lookup name = some value) :
    (name,value) ∈ kw := by
  obtain ⟨before,after,rfl,_⟩ := List.lookup_eq_some_iff.mp found
  simp

theorem safe_message {name : String} {value : Value} (member : (name,value) ∈ kw)
    (raws : ∀ name text, (name,.raw text) ∈ kw → Message fixed text (inner text)) :
    Message fixed value.safe (value.shown inner) := by
  cases value with
  | str text => exact .ofValue false text
  | raw text => exact raws name text member

theorem format_message {template : Template} {filled : Text}
    (literals : ∀ text, .literal text ∈ template → fixed text)
    (raws : ∀ name text, (name,.raw text) ∈ kw → Message fixed text (inner text))
    (formatted : format kw template = some filled) :
    Message fixed filled (shown inner kw template) := by
  induction template generalizing filled with
  | nil =>
    cases formatted
    exact .nil
  | cons part template ih =>
    have later := fun {after} => @ih after fun text member =>
      literals text (List.mem_cons_of_mem _ member)
    cases part with
    | literal text =>
      obtain ⟨after,tail,rfl⟩ := Option.map_eq_some_iff.mp formatted
      exact .markup (literals text List.mem_cons_self) (later tail)
    | field name =>
      unfold format at formatted
      split at formatted
      next value after found rest =>
        cases formatted
        unfold shown
        rw [found]
        exact (safe_message (mem_of_lookup found) raws).append (later rest)
      next => contradiction

theorem t_written {strings : Table} {keys : Set String} {key : String} (lang : String)
    (asked : key ∈ keys) : Written strings keys (t strings key lang []) := by
  unfold t
  cases found : strings key with
  | none => exact .key asked
  | some entry => exact .source found

theorem t_message {strings : Table} {keys : Set String} {key : String} (lang : String)
    (written : ∀ text, Written strings keys text → fixed text) (asked : key ∈ keys)
    (raws : ∀ name text, (name,.raw text) ∈ kw → Message fixed text (inner text)) :
    Message fixed (t strings key lang kw) (tShown inner strings key lang kw) := by
  unfold t tShown
  cases found : strings key with
  | none => exact .ofMarkup (written _ (.key asked))
  | some entry =>
    have whole := Message.ofMarkup (written (source (choose lang entry)) (.source found))
    dsimp only
    cases empty : kw.isEmpty with
    | true => simpa using whole
    | false =>
      cases formatted : format kw (choose lang entry) with
      | none => simpa using whole
      | some filled =>
        simpa using format_message (fun text member => written text (.literal found member)) raws
          formatted

end AtronixX.Strings
