import SinkAudit.Rule.Basic
import SinkAudit.Verdict.Reply

/-!
# Classifiers

A classifier judges one request at a time and may fail.  Nothing else is known of it here: it is a
function from requests to outcomes.

* `ClassifyError`: why there is no verdict, and whether asking again could help.
* `Request`, `Request.prompt`: what a classifier is told, as data and as text.
* `sendWithRetries`: one question asked again while it fails for a passing reason.
-/

namespace SinkAudit

/-- Why a classifier gave no verdict. -/
inductive ClassifyError where
  | request (text : String)
  | status (code : Nat) (body : String)
  | network (text : String)
  | timeout (seconds : Nat)
  | invalidResponse (text : String)
  deriving DecidableEq, Repr, Inhabited

namespace ClassifyError

/-- The wording of a failure. -/
def message : ClassifyError → String
  | request text => "Request error: " ++ text
  | status code body => "HTTP " ++ toString code ++ ": " ++ body
  | network text => "Network error: " ++ text
  | timeout seconds => "Timeout after " ++ toString seconds ++ " seconds"
  | invalidResponse text => "Invalid response format: " ++ text

/-- Whether another attempt could succeed. -/
def isTransient : ClassifyError → Bool
  | network _ => true
  | timeout _ => true
  | status code _ => code == 429 || 500 ≤ code
  | request _ => false
  | invalidResponse _ => false

/-- The failure of a reply without a verdict. -/
def ofReplyFault : ReplyFault → ClassifyError
  | .noObject => invalidResponse "no JSON object in reply"
  | .badObject => invalidResponse "malformed JSON object in reply"

end ClassifyError

/-- What a classifier is told about a candidate. -/
structure Request where
  vulnName : String
  description : String
  file : String
  line : Nat
  snippet : String
  deriving DecidableEq, Repr, Inhabited

namespace Request

/-- The request for a candidate, with the words of its rule. -/
def ofCandidate (c : Candidate) (r : Rule) : Request :=
  ⟨r.name, r.description, c.file, c.line, c.snippet⟩

/-- The text of the question up to the code. -/
def promptHead (r : Request) : String :=
  "You are an expert Cyber Security Auditor.\n\n" ++
  "I have detected a potential security vulnerability using a regex pattern.\n" ++
  "Your job is to determine if this is a FALSE POSITIVE or a TRUE POSITIVE.\n\n" ++
  "Vulnerability Type: " ++ r.vulnName ++ "\n" ++
  "Description: " ++ r.description ++ "\n" ++
  "File: " ++ r.file ++ "\n\n" ++
  "Code Snippet (Focus on line " ++ toString r.line ++ "):\n"

/-- The text of the question after the code. -/
def promptTail : String :=
  "\n\nAnalysis Rules:\n" ++
  "1. Check if the input is actually user-controlled (Taint Analysis).\n" ++
  "2. Check if there is existing sanitization (e.g., DOMPurify, parameterized queries).\n" ++
  "3. If it is hardcoded text or safe usage, mark as False Positive.\n\n" ++
  "Respond ONLY in the following valid JSON format:\n" ++
  "\x7b\n" ++
  "    \"is_vulnerable\": boolean,\n" ++
  "    \"severity\": \"Low\" | \"Medium\" | \"High\" | \"Critical\",\n" ++
  "    \"reasoning\": \"Short explanation of why this is dangerous or why it is safe.\",\n" ++
  "    \"fix\": \"A brief code correction suggestion.\"\n" ++
  "\x7d"

/-- The question as text. -/
def prompt (r : Request) : String :=
  r.promptHead ++ "```javascript\n" ++ r.snippet ++ "\n```" ++ promptTail

/-- A request as a JSON value. -/
def toJson (r : Request) : Json :=
  .object [("vuln_name", .text r.vulnName), ("description", .text r.description),
    ("file", .text r.file), ("line", .ofNat r.line), ("code_snippet", .text r.snippet)]

end Request

/-- Judges requests. -/
abbrev Classifier := Request → Except ClassifyError Verdict

/-- What came of a question that may have been asked several times. -/
structure Exchange where
  sends : Nat
  outcome : Except ClassifyError String

/-- Asks until the outcome is not a passing failure or no retry is left.  `outcomes i` is what the
send after `i` earlier ones brings. -/
def sendWithRetries (outcomes : Nat → Except ClassifyError String) : Nat → Nat → Exchange
  | 0, sent => ⟨sent + 1, outcomes sent⟩
  | retries + 1, sent =>
    match outcomes sent with
    | .error e => if e.isTransient then sendWithRetries outcomes retries (sent + 1)
        else ⟨sent + 1, .error e⟩
    | .ok reply => ⟨sent + 1, .ok reply⟩

/-- The verdict that an exchange ends with. -/
def Exchange.verdict (x : Exchange) : Except ClassifyError Verdict :=
  match x.outcome with
  | .error e => .error e
  | .ok reply =>
    match Verdict.ofReply reply with
    | .ok v => .ok v
    | .error f => .error (.ofReplyFault f)

/-- A classifier that asks elsewhere: `send` takes the prompt and the number of earlier sends. -/
def Classifier.remote (send : String → Nat → Except ClassifyError String) (maxRetries : Nat) :
    Classifier :=
  fun r => (sendWithRetries (send r.prompt) maxRetries 0).verdict

end SinkAudit
