import SinkAudit.Rule.Basic

/-!
# The built-in rules

Eight classes of vulnerabilities of JavaScript and TypeScript programs, in their order of
preference.
-/

namespace SinkAudit

/-- Text run as code. -/
def RuleInfo.codeInjection : RuleInfo where
  id := "CODE_INJECTION"
  name := "Code Injection"
  description := "Dynamic evaluation of code allows attackers to execute arbitrary commands."
  severity := .critical
  cwe := some "CWE-95"
  patterns :=
    ["eval\\(",
     "setTimeout\\s*\\(\\s*['\"`]",
     "setInterval\\s*\\(\\s*['\"`]",
     "new\\s+Function\\("]

/-- Text put into a page as markup. -/
def RuleInfo.crossSiteScripting : RuleInfo where
  id := "XSS"
  name := "Cross-Site Scripting (XSS)"
  description := "Unsanitized input being rendered to the DOM."
  severity := .high
  cwe := some "CWE-79"
  patterns :=
    ["\\.innerHTML\\s*=",
     "\\.outerHTML\\s*=",
     "document\\.write\\(",
     "dangerouslySetInnerHTML"]

/-- Text put into a database query. -/
def RuleInfo.sqlInjection : RuleInfo where
  id := "SQL_INJECTION"
  name := "SQL Injection"
  description := "SQL queries constructed using string concatenation or template literals."
  severity := .critical
  cwe := some "CWE-89"
  patterns :=
    ["SELECT\\s+.*FROM",
     "INSERT\\s+INTO",
     "UPDATE\\s+.*SET",
     "\\.query\\s*\\(\\s*['\"`].*\\$\\\x7b",
     "\\.execute\\s*\\(\\s*['\"`].*\\+\\s*"]

/-- Broken digests and predictable numbers. -/
def RuleInfo.weakCrypto : RuleInfo where
  id := "WEAK_CRYPTO"
  name := "Weak Cryptography"
  description := "Usage of outdated cryptographic algorithms (MD5/SHA1) or insecure random number generators."
  severity := .medium
  cwe := some "CWE-327"
  patterns :=
    ["md5\\(",
     "sha1\\(",
     "Math\\.random\\(",
     "crypto\\.createCipher\\(",
     "['\"`]md5['\"`]",
     "['\"`]sha1['\"`]"]

/-- File names made from outside text. -/
def RuleInfo.pathTraversal : RuleInfo where
  id := "PATH_TRAVERSAL"
  name := "Path Traversal"
  description := "File system access potentially using user-controlled input."
  severity := .high
  cwe := some "CWE-22"
  patterns :=
    ["fs\\.readFile\\s*\\(\\s*",
     "res\\.sendFile\\s*\\(\\s*",
     "path\\.join\\s*\\("]

/-- Connections without protection. -/
def RuleInfo.insecureApi : RuleInfo where
  id := "INSECURE_API"
  name := "Insecure API Usage"
  description := "Usage of insecure protocols or disabling SSL verification."
  severity := .medium
  cwe := some "CWE-319"
  patterns :=
    ["http://",
     "disable-web-security",
     "rejectUnauthorized\\s*:\\s*false"]

/-- Writes to what all objects share. -/
def RuleInfo.prototypePollution : RuleInfo where
  id := "PROTOTYPE_POLLUTION"
  name := "Prototype Pollution"
  description := "Unsafe merging of objects that permits modifying base object prototypes."
  severity := .high
  cwe := some "CWE-1321"
  patterns :=
    ["__proto__",
     "\\.prototype\\.",
     "Object\\.assign\\s*\\("]

/-- Places where identity is checked or trusted. -/
def RuleInfo.authIssues : RuleInfo where
  id := "AUTH_ISSUES"
  name := "Authentication & Authorization Issues"
  description := "Potential mishandling of tokens or lack of role checks."
  severity := .high
  cwe := some "CWE-287"
  patterns :=
    ["req\\.headers\\['authorization'\\]",
     "jwt\\.verify",
     "req\\.user"]

/-- The built-in rules as they are written down. -/
def builtinInfos : List RuleInfo :=
  [.codeInjection, .crossSiteScripting, .sqlInjection, .weakCrypto, .pathTraversal, .insecureApi,
   .prototypePollution, .authIssues]

/-- A catalog that was read; without rules, if it could not be read. -/
def Catalog.orEmpty : Except Error Catalog → Catalog
  | .ok c => c
  | .error _ => ⟨[]⟩

/-- The catalog of all built-in rules.  All their patterns can be read and no two share an id. -/
def Catalog.builtin : Catalog :=
  Catalog.orEmpty (Catalog.ofInfos builtinInfos)

end SinkAudit
