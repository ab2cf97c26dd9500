import SinkAudit.Classifier.Basic
import SinkAudit.Config.Basic
import SinkAudit.Url.Reader

/-!
# The classifier of a service

Questions go over a network to the endpoint that is configured.  An endpoint that is no web address,
or a key that cannot be written into a header, fails every send before anything leaves; such a
failure counts as one of the network.
-/

namespace SinkAudit

/-- What a send is addressed with. -/
structure Connection where
  endpoint : String
  model : String
  key : String
  timeoutSecs : Nat
  deriving DecidableEq, Repr

/-- Sends prompts: the outcome of a send on a connection, with the number of earlier attempts. -/
abbrev Network := Connection → String → Nat → Except ClassifyError String

/-- A network that reaches nobody. -/
def Network.none : Network := fun _ _ _ => .error (.network "unreachable")

namespace Connection

/-- Whether a character can stand in a header. -/
def isHeaderChar (c : Char) : Bool :=
  c == '\t' || (' ' ≤ c && c != '\x7f')

/-- Whether a question can be put into a message for the endpoint. -/
def isSendable (c : Connection) : Bool :=
  c.key.toList.all isHeaderChar &&
    match Url.parse c.endpoint with
    | .ok u => u.scheme == "http" || u.scheme == "https"
    | .error _ => false

/-- The outcome of one send. -/
def send (net : Network) (c : Connection) (prompt : String) (earlier : Nat) :
    Except ClassifyError String :=
  if c.isSendable then net c prompt earlier else .error (.network "builder error")

/-- The connection that settings describe. -/
def ofConfig (config : ClassifierConfig) (key : String) : Connection :=
  ⟨config.endpoint, config.model, key, config.timeoutSecs⟩

end Connection

/-- The classifier that asks over a network. -/
def Classifier.overNetwork (net : Network) (config : ClassifierConfig) (key : String) :
    Classifier :=
  .remote ((Connection.ofConfig config key).send net) config.maxRetries

end SinkAudit
