import ApiBalancer.NameMap

/-!
# Labels

Every node container carries two labels: the cluster that it belongs to and its role there. Nodes
are found by asking for containers whose labels have given values.
-/

namespace ApiBalancer

abbrev Labels := NameMap String

/-- The label whose value is the name of the cluster. -/
def Label.cluster : String := "io.x-k8s.kind.cluster"

/-- The label whose value is the node's role in the cluster. -/
def Label.role : String := "io.x-k8s.kind.role"

/-- What a node container does for its cluster. -/
inductive Role where
  | controlPlane
  | worker
  | externalLoadBalancer
deriving DecidableEq, Repr

namespace Role

/-- The label value that stands for the role. -/
def name : Role → String
  | controlPlane => "control-plane"
  | worker => "worker"
  | externalLoadBalancer => "external-load-balancer"

def all : List Role := [controlPlane, worker, externalLoadBalancer]

def ofName? (s : String) : Option Role := all.find? (·.name == s)

end Role

structure LabelQuery where
  required : Labels := ∅
deriving DecidableEq

namespace LabelQuery

/-- Asks for the label `key` to be `value`, whatever was asked of it before. -/
def withLabel (q : LabelQuery) (key value : String) : LabelQuery :=
  ⟨q.required.insert key value⟩

def withCluster (q : LabelQuery) (cluster : String) : LabelQuery :=
  q.withLabel Label.cluster cluster

def withRole (q : LabelQuery) (role : Role) : LabelQuery :=
  q.withLabel Label.role role.name

/-- Asks for the members of a cluster that have a role in it. -/
def nodes (cluster : String) (role : Role) : LabelQuery :=
  (({} : LabelQuery).withCluster cluster).withRole role

def toList (q : LabelQuery) : List (String × String) := q.required.toList

/-- Whether nothing is asked for, so that every container answers. -/
def isEmpty (q : LabelQuery) : Bool := q.required.isEmpty

/-- A container answers if each label that is asked for is on it, with that value. -/
def Matches (q : LabelQuery) (labels : Labels) : Prop :=
  ∀ e ∈ q.toList, labels.get? e.1 = some e.2

instance (q : LabelQuery) (labels : Labels) : Decidable (q.Matches labels) :=
  inferInstanceAs (Decidable (∀ e ∈ q.toList, labels.get? e.1 = some e.2))

/-- The query as one text, `key=value` parts separated by commas. -/
def text (q : LabelQuery) : String :=
  ",".intercalate (q.toList.map fun e => e.1 ++ "=" ++ e.2)

end LabelQuery

end ApiBalancer
