import FormLang.Calls.Basic
import FormLang.Json.Pick
import FormLang.Text.UrlForm

/-!
# Lookups

Functions that read the values given to an expression and the data sources of the host, and functions
that write links to parts of the form.
-/

namespace FormLang.Calls.Lookup

/-- A failed lookup as a failed call. -/
def sourced {α : Type} (result : Except SourceError α) : Except CallError α :=
  result.mapError .source

/-- Data as expressions see it: only texts, numbers and booleans, and null for all else. -/
def simpleValue : Option Json → Value
  | some (.string s) => .string s
  | some (.number n) => .number n.toBinary64
  | some (.bool b) => .boolean b
  | _ => .null

/-- A text, or null. -/
def textOrNull : Option String → Value
  | some s => .string s
  | none => .null

/-! ## Given values -/

/-- A positional value. An index with a fraction, if it is in range, gives null. -/
def positionalValue (env : Environment) (args : Arguments) : Except CallError Value :=
  match env.positional with
  | none | some [] => .error .noPositionalValues
  | some values =>
    match args.number? 0 with
    | some (.finite x) =>
      match if 0 ≤ x.signedUnits then values[x.wholePart]? else none with
      | some value => .ok (if x.isWhole then value else .null)
      | none => .error (.indexOutOfRange (some (.finite x)))
    | index => .error (.indexOutOfRange index)

/-- A named value, the one with the default key if no key is given. -/
def namedValue (env : Environment) (args : Arguments) : Except CallError Value :=
  match env.named with
  | none => .error .noNamedValues
  | some named =>
    match (args.text? 0).or named.defaultKey with
    | none | some "" => .error .noKey
    | some key =>
      match named.values.get? key with
      | some value => .ok value
      | none => .error (.unknownKey key named.values.keys)

/-! ## The host's data -/

/-- What is known of the form instance; an empty text counts as unknown. -/
def instanceContext (sources : Sources) (args : Arguments) : Except CallError Value :=
  let key := (args.text? 0).getD "null"
  match InstanceField.ofKey? key with
  | some field => .ok (textOrNull ((sources.instanceField field).filter (· != "")))
  | none => .error (.unknownInstanceField key)

/-- A setting of the application; settings that do not count as true are null. -/
def frontendSetting (sources : Sources) (args : Arguments) : Except CallError Value :=
  match args.text? 0 with
  | none => .error .noSettingKey
  | some key => .ok (((sources.setting key).filter Json.truthy).elim .null Value.ofJson)

/-- Whether the user may take an action. -/
def authContext (sources : Sources) (args : Arguments) : Except CallError Value :=
  let key := (args.text? 0).getD "null"
  match Permission.ofKey? key with
  | some action => .ok (.boolean (sources.isPermitted action))
  | none => .error (.unknownPermission key)

/-- The data of a component. -/
def component (sources : Sources) (args : Arguments) : Except CallError Value :=
  match args.text? 0 with
  | none => .error .noComponentId
  | some id => (sourced (sources.componentValue id)).map simpleValue

/-- The data at a field of a data model. -/
def dataModel (sources : Sources) (args : Arguments) : Except CallError Value :=
  match args.text? 0 with
  | none => .error .noField
  | some field => (sourced (sources.formData field (args.text? 1))).map simpleValue

/-- Whether the user has a role. -/
def hasRole (sources : Sources) (args : Arguments) : Value :=
  match sources.roles, args.text? 0 with
  | some roles, some role => .boolean (role != "" && roles.contains role)
  | _, _ => .boolean false

/-- The part of external data at a path; data that is no array or object has no parts but itself. -/
def externalPart (path : String) (data : Json) : Option Json :=
  if data.isContainer then data.pick? path else some data

/-- The text of a part of external data; null unless it counts as true and has a text. -/
def externalApi (sources : Sources) (args : Arguments) : Except CallError Value :=
  match args.text? 0 with
  | none => .error .noExternalId
  | some id =>
    match args.text? 1 with
    | none | some "" => .ok .null
    | some path =>
      let part := (sources.externalData id).bind (externalPart path)
      .ok (textOrNull ((part.filter fun j => j.truthy && !j.isContainer).map fun j =>
        String.ofList j.display))

/-- The text that a component displays. -/
def displayValue (sources : Sources) (args : Arguments) : Except CallError Value :=
  match args.text? 0 with
  | none => .error .noComponentId
  | some id => (sourced (sources.displayValue id)).map textOrNull

/-! ## Links -/

/-- The address of a page of the form. -/
def pageAddress (sources : Sources) (page : String) : String :=
  match sources.task, sources.instanceField .instanceId with
  | some task, some id => "/instance/" ++ id ++ "/" ++ task ++ "/" ++ page
  | _, _ => "/" ++ page

/-- A link with an address, a kind and a text. -/
def anchor (address kind text : String) : String :=
  "<a href=\"" ++ address ++ "\" data-link-type=\"" ++ kind ++ "\">" ++ text ++ "</a>"

/-- A link to a component on its page. -/
def linkToComponent (sources : Sources) (args : Arguments) : Except CallError Value :=
  match args.text? 0, args.text? 1 with
  | some text, some id =>
    match sources.componentPage id with
    | none => .error (.unknownComponent id)
    | some page =>
      let address :=
        pageAddress sources page ++ "?focusComponentId=" ++ String.ofList (Text.urlForm id)
      .ok (.string (anchor address "LinkToPotentialNode" text))
  | _, _ => .ok .null

/-- A link to a page. -/
def linkToPage (sources : Sources) (args : Arguments) : Value :=
  match args.text? 0, args.text? 1 with
  | some text, some page =>
    .string (anchor (pageAddress sources page) "LinkToPotentialPage" text)
  | _, _ => .null

/-- What a link without a target or without a text is warned of. -/
def linkWarning? (target : String) (f : Builtin) (args : Arguments) : Option String :=
  match args.text? 0, args.text? 1 with
  | _, none => some (target ++ " id was empty but must be set for " ++ f.name ++ " to work")
  | none, some _ => some ("Link text was empty but must be set for " ++ f.name ++ " to work")
  | some _, some _ => none

/-! ## Lists of data -/

/-- The text of a property of an item. -/
def propertyText (property : String) (item : Json) : List Char :=
  let selected := match item with
    | .object fields => Dictionary.get? property fields
    | _ => none
  selected.elim "undefined".toList Json.display

/-- The texts of the items, with text before and after each of them and a space between them. The
text after the last item may be left out. -/
def mapItems (property : String) (before after : List Char) (afterLast : Bool) :
    List Json → List Char
  | [] => []
  | [item] => before ++ propertyText property item ++ if afterLast then after else []
  | item :: items =>
    before ++ propertyText property item ++ after ++
      ' ' :: mapItems property before after afterLast items

/-- The texts of a property of all items of a list in a data model; the empty text for all data that
is no list. -/
def selectAndMap (sources : Sources) (args : Arguments) : Except CallError Value :=
  match args.text? 0, args.text? 1 with
  | some path, some property =>
    let before := ((args.text? 2).getD "").toList
    let after := ((args.text? 3).getD "").toList
    let afterLast := (args.boolean? 4).getD true
    (sourced (sources.formData path none)).map fun
      | some (.array items) =>
        .string (String.ofList (mapItems property before after afterLast items))
      | _ => .string ""
  | _, _ => .error .noField

/-- Calls a lookup. -/
def call (f : Builtin) (env : Environment) (args : Arguments) : Except CallError Value :=
  let sources := env.sources
  match f with
  | .argv => positionalValue env args
  | .value => namedValue env args
  | .instanceContext => instanceContext sources args
  | .frontendSettings => frontendSetting sources args
  | .authContext => authContext sources args
  | .component => component sources args
  | .dataModel => dataModel sources args
  | .hasRole => .ok (hasRole sources args)
  | .externalApi => externalApi sources args
  | .displayValue => displayValue sources args
  | .text => .ok (textOrNull ((args.text? 0).map sources.text))
  | .linkToComponent => linkToComponent sources args
  | .linkToPage => .ok (linkToPage sources args)
  | .language => .ok (.string sources.language)
  | .selectAndMap => selectAndMap sources args
  | _ => .error (.foreign .lookup f)

end FormLang.Calls.Lookup
