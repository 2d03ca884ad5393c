import SiemDashboard.Lib.Phrases
import SiemDashboard.Lib.Python

/-!
# The Sigma playground

`engines/sigma_playground.py`: the condition of a Sigma rule is screened, cut into tokens and read by
recursive descent.

* **Errors** — `SigmaError`, `ConditionError`.
* **The screen** — `screen`, before any token is read.
* **Tokens** — `isSelectionName`, `readToken`, `tokenize`.
* **Trees** — `Node`, `Node.leaves`.
* **The parser** — `parseOr`, `parseAnd`, `parseNot`, `parsePrimary`, `parse`, `conditionTree`.
-/

namespace SiemDashboard.SigmaPlayground

open Python Phrases

/-! ## Errors -/

/-- The details of a `SimulationValidationError`. -/
structure SigmaError where
  message : String
  failureClass : String
  element : String
  reason : String
deriving DecidableEq, Repr

/-- What the parser raises about the condition. -/
def unsupportedCondition (message reason : String) : SigmaError :=
  ⟨message, "unsupported_condition", "detection.condition", reason⟩

/-- What the parser may raise. -/
inductive ConditionError where
  | invalid (e : SigmaError)
  /-- `RecursionError`: no frame is left on the interpreter's stack. -/
  | recursion
deriving DecidableEq, Repr

def maxSigmaConditionLength : Nat := 512

/-! ## The screen -/

/-- The classes of characters that the patterns of `re` leave to Unicode. -/
structure Unicode extends Digits where
  /-- `\w`. -/
  isWord : Char → Bool
  isDigit_space : ∀ c, isSpace c = true → isDigit c = false

/-- `\d`. -/
def Unicode.isDecimal (unicode : Unicode) (c : Char) : Bool :=
  unicode.isDigit c && (unicode.decimal c).isSome

/-- `\b` between two characters. -/
def Unicode.boundary (unicode : Unicode) (before after : Option Char) : Bool :=
  before.any unicode.isWord != after.any unicode.isWord

/-- `re.search`, of a pattern that looks at the character before it. -/
def search (p : Option Char → List Char → Bool) : Option Char → List Char → Bool
  | before, [] => p before []
  | before, c :: cs => p before (c :: cs) || search p (some c) cs

/-- `\s+of\b`. -/
def Unicode.ofFollows (unicode : Unicode) (cs : List Char) : Bool :=
  cs.head?.any isSpace &&
    match cs.dropWhile isSpace with
    | 'o' :: 'f' :: rest => unicode.boundary (some 'f') rest.head?
    | _ => false

/-- `\b\d+\s+of\b`. -/
def Unicode.numberOf (unicode : Unicode) (before : Option Char) (cs : List Char) : Bool :=
  unicode.boundary before cs.head? && cs.head?.any unicode.isDecimal &&
    unicode.ofFollows (cs.dropWhile unicode.isDecimal)

/-- `\ball\s+of\b`. -/
def Unicode.allOf (unicode : Unicode) (before : Option Char) (cs : List Char) : Bool :=
  unicode.boundary before cs.head? &&
    match cs with
    | 'a' :: 'l' :: 'l' :: rest => unicode.ofFollows rest
    | _ => false

/-- The constructs that are out of scope. -/
def bannedConstructs : List String :=
  ["1 of", "all of", "near", "before", "after", "|", "*", "?"]

/-- Those of letters only are looked for in any case. -/
def involves (banned text : String) : Bool :=
  if banned.toList.all Char.isAlpha then mentions banned (lower text) else mentions banned text

/-- What is looked for in the stripped condition before any token is read. -/
def screen (unicode : Unicode) (text : String) : Except SigmaError Unit :=
  match bannedConstructs.find? fun banned => involves banned text with
  | some banned =>
    .error (unsupportedCondition
      s!"Unsupported Sigma condition construct involving '{strip banned}'"
      "Wildcard selection expansion, aggregation pipes, and timeframe operators are out of scope")
  | none =>
    if search unicode.numberOf none (lower text).toList ||
        search unicode.allOf none (lower text).toList then
      .error (unsupportedCondition "Unsupported Sigma condition construct 'N of' / 'all of'"
        "Wildcard selection expansion is out of scope")
    else if text.toList.any fun c => c == '*' || c == '?' then
      .error (unsupportedCondition "Unsupported Sigma condition wildcard"
        "Wildcard selection names are out of scope")
    else .ok ()

/-! ## Tokens -/

/-- What the parser looks for by name. -/
def reserved : List String := ["and", "or", "not", "(", ")"]

/-- `re.fullmatch` of a selection name in `_compile_detection`. -/
def isSelectionName : List Char → Bool
  | [] => false
  | c :: cs => (c.isAlpha || c == '_') && cs.all fun c => c.isAlpha || c == '_' || c.isDigit

/-- `[A-Za-z_]`; where case is ignored, four letters beyond ASCII belong to it. -/
def isIdentStart (c : Char) : Bool :=
  c.isAlpha || c == '_' || c.toNat == 0x130 || c.toNat == 0x131 || c.toNat == 0x17F ||
    c.toNat == 0x212A

/-- `[A-Za-z0-9_]`, likewise. -/
def isIdentChar (c : Char) : Bool := isIdentStart c || c.isDigit

/-- The token of a word: a keyword in any case, or the word itself.  A keyword that ends before a
    letter outside `isIdentChar` is a word of its own for the pattern, but that letter is no token. -/
def wordToken (word : List Char) : String :=
  if lower (String.ofList word) ∈ ["not", "and", "or"] then lower (String.ofList word)
  else String.ofList word

section

variable (py : Python)

def unsupportedToken (c : Char) : SigmaError :=
  unsupportedCondition s!"Unsupported Sigma condition token {py.repr (.str (String.ofList [c]))}"
    "Only named selections with and / or / not and parentheses are supported"

/-- One match of `CONDITION_TOKEN_PATTERN`.  Where only whitespace is left, its last character that is
    no newline is taken for a token. -/
def readToken (cs : List Char) : Except SigmaError (String × List Char) :=
  match cs.dropWhile isSpace with
  | [] =>
    match cs.reverse.find? fun c => c != '\n' with
    | some c => .error (unsupportedToken py c)
    | none =>
      .error (unsupportedCondition "Unsupported Sigma condition syntax"
        s!"Could not tokenize condition near: {py.repr (.str (String.ofList (cs.take 20)))}")
  | c :: rest =>
    if c == '(' then .ok ("(", rest)
    else if c == ')' then .ok (")", rest)
    else if isIdentStart c then
      .ok (wordToken (c :: rest.takeWhile isIdentChar), rest.dropWhile isIdentChar)
    else .error (unsupportedToken py c)

/-- The loop of `_tokenize`; every token takes a character. -/
def tokenizeFrom : Nat → List Char → Except SigmaError (List String)
  | 0, _ => .ok []
  | _ + 1, [] => .ok []
  | fuel + 1, c :: cs => do
    let (token, rest) ← readToken py (c :: cs)
    let tokens ← tokenizeFrom fuel rest
    return token :: tokens

/-- `_tokenize`. -/
def tokenize (unicode : Unicode) (expression : String) : Except SigmaError (List String) := do
  if maxSigmaConditionLength < expression.length then
    .error (unsupportedCondition "Sigma condition exceeds maximum length"
      s!"Maximum length is {maxSigmaConditionLength}")
  screen unicode (strip expression)
  let tokens ← tokenizeFrom py expression.length expression.toList
  if tokens = [] then
    .error (unsupportedCondition "Sigma condition must not be empty" "condition is required")
  return tokens

end

/-! ## Trees -/

/-- The tree of a condition. -/
inductive Node where
  | selection (name : String)
  | not (node : Node)
  | all (nodes : List Node)
  | any (nodes : List Node)

mutual

/-- The selections of a tree, in order. -/
def Node.leaves : Node → List String
  | .selection name => [name]
  | .not node => node.leaves
  | .all nodes => leavesOf nodes
  | .any nodes => leavesOf nodes

def leavesOf : List Node → List String
  | [] => []
  | node :: nodes => node.leaves ++ leavesOf nodes

end

/-- One node stands for itself, several are put under a common one. -/
def join (many : List Node → Node) : List Node → Node
  | [node] => node
  | nodes => many nodes

/-! ## The parser -/

def unexpectedEnd : ConditionError :=
  .invalid (unsupportedCondition "Unexpected end of Sigma condition"
    "Condition ended before a complete expression")

/-- `_consume(")")`, after what stands in the parentheses. -/
def consumeClose : Node × List String → Except ConditionError (Node × List String)
  | (_, []) => .error unexpectedEnd
  | (node, token :: rest) =>
    if token = ")" then .ok (node, rest)
    else
      .error (.invalid (unsupportedCondition
        s!"Expected ')' in Sigma condition, found '{token}'"
        "Condition syntax is invalid for the Version 3 subset"))

section

variable (names : List String)

/-- The end of `_parse_primary`. -/
def parseName : List String → Except ConditionError (Node × List String)
  | [] => .error unexpectedEnd
  | name :: rest =>
    if name ∈ reserved then
      .error (.invalid (unsupportedCondition s!"Unexpected keyword '{name}' in Sigma condition"
        "Expected a selection name"))
    else if name ∈ names then .ok (.selection name, rest)
    else
      .error (.invalid (unsupportedCondition s!"Unknown selection '{name}' in Sigma condition"
        s!"Selection '{name}' is not defined under detection"))

mutual

/-- `_parse_or`, with so many frames left on the stack; so for the three below. -/
def parseOr : Nat → Reader String Node ConditionError
  | 0, _ => .error .recursion
  | frames + 1, tokens => mapRead (join .any) (separated "or" (parseAnd frames) tokens)

def parseAnd : Nat → Reader String Node ConditionError
  | 0, _ => .error .recursion
  | frames + 1, tokens => mapRead (join .all) (separated "and" (parseNot frames) tokens)

def parseNot : Nat → Reader String Node ConditionError
  | 0, _ => .error .recursion
  | frames + 1, tokens =>
    if tokens.head? = some "not" then mapRead .not (parseNot frames tokens.tail)
    else parsePrimary frames tokens

def parsePrimary : Nat → Reader String Node ConditionError
  | 0, _ => .error .recursion
  | frames + 1, tokens =>
    if tokens.head? = some "(" then parseOr frames tokens.tail >>= consumeClose
    else parseName names tokens

end

/-- The end of `parse`. -/
def consumeEnd : Node × List String → Except ConditionError Node
  | (tree, []) => .ok tree
  | (_, token :: _) =>
    .error (.invalid (unsupportedCondition s!"Unexpected token '{token}' in Sigma condition"
      "Condition has trailing unsupported tokens"))

/-- `parse`. -/
def parse (frames : Nat) (tokens : List String) : Except ConditionError Node :=
  parseOr names frames tokens >>= consumeEnd

/-- How `_compile_detection` reads the condition. -/
def conditionTree (py : Python) (unicode : Unicode) (frames : Nat) (condition : String) :
    Except ConditionError Node := do
  let tokens ← (tokenize py unicode (strip condition)).mapError .invalid
  parse names frames tokens

end

end SiemDashboard.SigmaPlayground
