import FormLang.Json.Basic

/-!
# Data sources

What an expression can look up outside itself. A host fills in the lookups that its expressions use
(`Sources`); the others keep their defaults, under which nothing is available.
-/

namespace FormLang

/-- What is known of the form instance. -/
inductive InstanceField where
  | instanceId
  | appId
  | ownerPartyId
  | ownerPartyType
deriving DecidableEq

namespace InstanceField

/-- The name of a field. -/
def key : InstanceField → String
  | .instanceId => "instanceId"
  | .appId => "appId"
  | .ownerPartyId => "instanceOwnerPartyId"
  | .ownerPartyType => "instanceOwnerPartyType"

/-- All fields. -/
def all : List InstanceField := [.instanceId, .appId, .ownerPartyId, .ownerPartyType]

/-- The field with a name. -/
def ofKey? (key : String) : Option InstanceField := all.find? (·.key == key)

end InstanceField

/-- An action that the user may be allowed to take. -/
inductive Permission where
  | read
  | write
  | instantiate
  | confirm
  | sign
  | reject
deriving DecidableEq

namespace Permission

/-- The name of an action. -/
def key : Permission → String
  | .read => "read"
  | .write => "write"
  | .instantiate => "instantiate"
  | .confirm => "confirm"
  | .sign => "sign"
  | .reject => "reject"

/-- All actions. -/
def all : List Permission := [.read, .write, .instantiate, .confirm, .sign, .reject]

/-- The action with a name. -/
def ofKey? (key : String) : Option Permission := all.find? (·.key == key)

end Permission

/-- Why a lookup fails. -/
inductive SourceError where
  /-- The thing that is looked up does not exist. -/
  | notFound (message : String)
  /-- The host does not offer such lookups. -/
  | unavailable (what : String)
  /-- Any other reason. -/
  | other (message : String)
deriving DecidableEq

/-- The text of a failed lookup. -/
def SourceError.message : SourceError → String
  | .notFound message => message
  | .unavailable what => "No " ++ what ++ " available"
  | .other message => message

/-- The lookups that a host offers. -/
structure Sources where
  /-- The data at a field of a data model, the default one if no type is given. -/
  formData (field : String) (dataType : Option String) : Except SourceError (Option Json) :=
    .error (.unavailable "form data")
  /-- The data that a component is bound to; none if the component is hidden. -/
  componentValue (id : String) : Except SourceError (Option Json) :=
    .error (.unavailable "component data")
  /-- The text that a component displays; none if the component is hidden. -/
  displayValue (id : String) : Except SourceError (Option String) :=
    .error (.unavailable "display data")
  /-- The page of a component. -/
  componentPage (id : String) : Option String := none
  /-- What is known of the form instance. -/
  instanceField (field : InstanceField) : Option String := none
  /-- A setting of the application. -/
  setting (key : String) : Option Json := none
  /-- Whether the user may take an action. -/
  isPermitted (action : Permission) : Bool := false
  /-- The roles of the user, if they are known. -/
  roles : Option (List String) := none
  /-- The data of an external service. -/
  externalData (id : String) : Option Json := none
  /-- The text with a key; unknown keys stand for themselves. -/
  text (key : String) : String := key
  /-- The language of the user. -/
  language : String := "nb"
  /-- The current task of the process. -/
  task : Option String := none

/-- Sources in which nothing is available. -/
def Sources.empty : Sources := {}

end FormLang
