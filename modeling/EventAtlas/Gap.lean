import EventAtlas.Observer

/-!
# Gaps

Where the documented flow is probably incomplete: observers whose source was never read,
observers without attributed use of the service, and classes that no observer reaches. Each
list goes by increasing class identifier.
-/

namespace EventAtlas

/-- The kinds of gap. -/
inductive Gap.Kind where
  /-- The source of an observer was not found. -/
  | missingSource
  /-- An observer was read but nothing is attributed to it. -/
  | unattributed
  /-- No observer declares an indexed class as a service. -/
  | unreached
deriving DecidableEq, Repr

/-- A place where the documented flow is probably incomplete. -/
structure Gap where
  kind : Gap.Kind
  subject : ClassId
deriving DecidableEq, Repr

namespace Gap

/-- The heading under which the gaps of a kind are listed. -/
def Kind.heading : Kind → String
  | .missingSource => "missing_sources"
  | .unattributed => "unattributed_observers"
  | .unreached => "unreached_api_classes"

/-- All kinds, in the order in which they are listed. -/
def Kind.all : List Kind := [.missingSource, .unattributed, .unreached]

/-- How much a gap matters: a source that is missing hides services, the others inform. -/
def severity (gap : Gap) : String :=
  match gap.kind with
  | .missingSource => "warning"
  | .unattributed | .unreached => "info"

/-- The words for a gap. -/
def message (gap : Gap) : String :=
  match gap.kind with
  | .missingSource => "Source for observer '" ++ gap.subject ++ "' was not found"
  | .unattributed => "Observer '" ++ gap.subject ++ "' has no detected API usage"
  | .unreached => "API class '" ++ gap.subject ++ "' is not injected into any observer"

/-- Observers whose source was never read. -/
def missingSources (observers : Observers) : List ClassId :=
  (observers.sorted.filter fun entry => entry.2.source.isNone).map Prod.fst

/-- Observers that were read and to which nothing is attributed. -/
def unattributedObservers (observers : Observers) : List ClassId :=
  (observers.sorted.filter fun entry =>
    entry.2.source.isSome ∧ entry.2.endpoints.isEmpty ∧ entry.2.sdkCalls.isEmpty).map Prod.fst

/-- The services that all observers declare, in canonical form. -/
def declaredServices (observers : Observers) : List ClassId :=
  observers.values.flatMap fun observer => observer.services.map ClassId.canonical

/-- Whether some observer reaches a class: it was resolved, a service names it in full, or an
unqualified service has its short name. -/
def isReached (observers : Observers) (id : ClassId) : Bool :=
  observers.values.any (fun observer => id ∈ observer.resolved) ||
    (declaredServices observers).any fun service =>
      service = id || (!service.isQualified && service = id.shortName)

/-- Indexed classes that no observer reaches. -/
def unreachedClasses (index : ApiIndex) (observers : Observers) : List ClassId :=
  (sortNames index.keys).filter fun id => !isReached observers id

/-- The subjects of the gaps of a kind. -/
def subjects (index : ApiIndex) (observers : Observers) : Kind → List ClassId
  | .missingSource => missingSources observers
  | .unattributed => unattributedObservers observers
  | .unreached => unreachedClasses index observers

/-- The gaps of a kind. -/
def ofKind (index : ApiIndex) (observers : Observers) (kind : Kind) : List Gap :=
  (subjects index observers kind).map (⟨kind, ·⟩)

/-- All gaps, kind by kind. -/
def detect (index : ApiIndex) (observers : Observers) : List Gap :=
  Kind.all.flatMap (ofKind index observers)

/-- How many gaps there are. -/
structure Summary where
  missingSources : Nat
  unattributedObservers : Nat
  unreachedClasses : Nat
deriving DecidableEq, Repr

/-- The number of gaps of all kinds. -/
def Summary.total (summary : Summary) : Nat :=
  summary.missingSources + summary.unattributedObservers + summary.unreachedClasses

/-- Counts the gaps. -/
def summarize (index : ApiIndex) (observers : Observers) : Summary where
  missingSources := (missingSources observers).length
  unattributedObservers := (unattributedObservers observers).length
  unreachedClasses := (unreachedClasses index observers).length

end Gap

end EventAtlas
