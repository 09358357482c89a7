/-!
# Capabilities and access modes

A manager advertises capabilities; the first three are required of every
manager. Each kind of query takes an access mode of its own, so that a
mode that makes no sense for a query cannot be passed to it.

Every one of these names has a display text in lower camel case (`read`,
`createRelated`) and a diagnostic text in upper camel case (`Read`,
`CreateRelated`), and is read back from its display text only.
-/

namespace AssetBroker

/-- What a manager can do. -/
inductive Capability where
  | entityReferenceIdentification
  | managementPolicyQueries
  | entityTraitIntrospection
  | stateful
  | customTerminology
  | resolution
  | publishing
  | relationshipQueries
  | existenceQueries
  | defaultEntityReferences
  deriving DecidableEq, Repr, Inhabited

namespace Capability

/-- Every capability, in declaration order. -/
def all : List Capability :=
  [entityReferenceIdentification, managementPolicyQueries, entityTraitIntrospection, stateful,
    customTerminology, resolution, publishing, relationshipQueries, existenceQueries,
    defaultEntityReferences]

/-- The capabilities every manager must have. -/
def required : List Capability :=
  [entityReferenceIdentification, managementPolicyQueries, entityTraitIntrospection]

def name : Capability → String
  | entityReferenceIdentification => "entityReferenceIdentification"
  | managementPolicyQueries => "managementPolicyQueries"
  | entityTraitIntrospection => "entityTraitIntrospection"
  | stateful => "stateful"
  | customTerminology => "customTerminology"
  | resolution => "resolution"
  | publishing => "publishing"
  | relationshipQueries => "relationshipQueries"
  | existenceQueries => "existenceQueries"
  | defaultEntityReferences => "defaultEntityReferences"

/-- Whether every manager must have it. -/
def isRequired (c : Capability) : Bool := required.contains c

def ofName? (s : String) : Option Capability := all.find? (·.name == s)

end Capability

/-- Upper-cases the first character: the diagnostic text of a camel-case name. -/
def capitalized (s : String) : String :=
  match s.toList with
  | [] => ""
  | c :: rest => String.ofList (c.toUpper :: rest)

/-- The access a context grants. -/
inductive Access where
  | read
  | write
  | createRelated
  | unknown
  deriving DecidableEq, Repr, Inhabited

namespace Access

/-- Every mode, in declaration order. -/
def all : List Access := [read, write, createRelated, unknown]

def name : Access → String
  | read => "read"
  | write => "write"
  | createRelated => "createRelated"
  | unknown => "unknown"

def ofName? (s : String) : Option Access := all.find? (·.name == s)

end Access

/-- Access for resolving traits. -/
inductive ResolveAccess where
  | read
  | managerDriven
  deriving DecidableEq, Repr, Inhabited

/-- Access for publishing. -/
inductive PublishingAccess where
  | write
  | createRelated
  deriving DecidableEq, Repr, Inhabited

/-- Access for relationship queries. -/
inductive RelationsAccess where
  | read
  | write
  | createRelated
  deriving DecidableEq, Repr, Inhabited

/-- Access for management policy queries. -/
inductive PolicyAccess where
  | read
  | write
  | createRelated
  | required
  | managerDriven
  deriving DecidableEq, Repr, Inhabited

/-- Access for trait introspection. -/
inductive EntityTraitsAccess where
  | read
  | write
  deriving DecidableEq, Repr, Inhabited

/-- Access for default entity references. -/
inductive DefaultEntityAccess where
  | read
  | write
  | createRelated
  deriving DecidableEq, Repr, Inhabited

namespace ResolveAccess
/-- Every mode, in declaration order. -/
def all : List ResolveAccess := [read, managerDriven]
def name : ResolveAccess → String
  | read => "read"
  | managerDriven => "managerDriven"
end ResolveAccess

namespace PublishingAccess
/-- Every mode, in declaration order. -/
def all : List PublishingAccess := [write, createRelated]
def name : PublishingAccess → String
  | write => "write"
  | createRelated => "createRelated"
end PublishingAccess

namespace RelationsAccess
/-- Every mode, in declaration order. -/
def all : List RelationsAccess := [read, write, createRelated]
def name : RelationsAccess → String
  | read => "read"
  | write => "write"
  | createRelated => "createRelated"
end RelationsAccess

namespace PolicyAccess
/-- Every mode, in declaration order. -/
def all : List PolicyAccess := [read, write, createRelated, required, managerDriven]
def name : PolicyAccess → String
  | read => "read"
  | write => "write"
  | createRelated => "createRelated"
  | required => "required"
  | managerDriven => "managerDriven"
end PolicyAccess

namespace EntityTraitsAccess
/-- Every mode, in declaration order. -/
def all : List EntityTraitsAccess := [read, write]
def name : EntityTraitsAccess → String
  | read => "read"
  | write => "write"
end EntityTraitsAccess

namespace DefaultEntityAccess
/-- Every mode, in declaration order. -/
def all : List DefaultEntityAccess := [read, write, createRelated]
def name : DefaultEntityAccess → String
  | read => "read"
  | write => "write"
  | createRelated => "createRelated"
end DefaultEntityAccess

end AssetBroker
