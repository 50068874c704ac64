/-!
# Media types

Only one question is asked of a media type: whether it says that a body is JSON. The type is
`application`, and the subtype is `json` or has it before or after its last plus sign; parameters
have to be well written.
-/

namespace Mintmark.Http.MediaType

def tokenMarks : List Char :=
  ['!', '#', '$', '%', '&', '\x27', '*', '+', '-', '.', '^', '_', '\x60', '|', '~']

def isTokenChar (c : Char) : Bool := c.isAlphanum || tokenMarks.contains c

/-- A token and what follows it. -/
def token (cs : List Char) : List Char × List Char :=
  (cs.takeWhile isTokenChar, cs.dropWhile isTokenChar)

theorem length_token_le (cs : List Char) : (token cs).2.length ≤ cs.length :=
  (List.dropWhile_sublist isTokenChar).length_le

def skipSpaces (cs : List Char) : List Char := cs.dropWhile (· == ' ')

theorem length_skipSpaces_le (cs : List Char) : (skipSpaces cs).length ≤ cs.length :=
  (List.dropWhile_sublist _).length_le

/-- What follows a value in quotes. There is at least one character between them. -/
def closeQuotes (cs : List Char) : List Char :=
  (cs.drop 1).dropWhile (· != '"')

theorem length_closeQuotes_le (cs : List Char) : (closeQuotes cs).length ≤ cs.length := by
  have := (List.dropWhile_sublist (· != '"') (l := cs.drop 1)).length_le
  simp only [closeQuotes, List.length_drop] at *
  omega

/-- What follows the value of a parameter and its semicolon. -/
def afterValue? : List Char → Option (List Char)
  | '"' :: cs =>
    match closeQuotes cs with
    | [] => none
    | _ :: rest =>
      match skipSpaces rest with
      | [] => some []
      | c :: rest => if c = ';' then some rest else none
  | cs =>
    match token cs with
    | (_, []) => some []
    | (value, c :: rest) => if value ≠ [] ∧ c = ';' then some rest else none

theorem length_of_afterValue? {cs rest : List Char} (h : afterValue? cs = some rest) :
    rest.length ≤ cs.length := by
  unfold afterValue? at h
  split at h
  · next cs =>
    have quotes := length_closeQuotes_le cs
    split at h
    · cases h
    · next after eq =>
      rw [eq] at quotes
      have spaces := length_skipSpaces_le after
      split at h
      · cases h; simp
      · next eq =>
        rw [eq] at spaces
        split at h
        · cases h; simp only [List.length_cons] at *; omega
        · cases h
  · have value := length_token_le cs
    split at h
    · cases h; simp
    · next eq =>
      rw [eq] at value
      split at h
      · cases h; simp only [List.length_cons] at value; omega
      · cases h

/-- What follows a parameter, up to and with its semicolon. -/
def afterParameter? (cs : List Char) : Option (List Char) :=
  match token cs with
  | (name, c :: rest) => if name ≠ [] ∧ c = '=' then afterValue? rest else none
  | (_, []) => none

theorem length_of_afterParameter? {cs rest : List Char} (h : afterParameter? cs = some rest) :
    rest.length < cs.length := by
  have name := length_token_le cs
  unfold afterParameter? at h
  split at h
  · next eq =>
    rw [eq] at name
    split at h
    · have := length_of_afterValue? h
      simp only [List.length_cons] at name
      omega
    · cases h
  · cases h

/-- Whether the parameters after a semicolon are well written. -/
def parametersOk (cs : List Char) : Bool :=
  if skipSpaces cs = [] then true
  else
    match _h : afterParameter? (skipSpaces cs) with
    | some rest => parametersOk rest
    | none => false
termination_by cs.length
decreasing_by
  exact Nat.lt_of_lt_of_le (length_of_afterParameter? _h) (length_skipSpaces_le cs)

/-- The parts of a subtype around its last plus sign, which is not its first character. -/
def splitSuffix (cs : List Char) : List Char × Option (List Char) :=
  let reversed := cs.reverse
  match reversed.dropWhile (· != '+') with
  | _ :: c :: stem => ((c :: stem).reverse, some (reversed.takeWhile (· != '+')).reverse)
  | _ => (cs, none)

def json : List Char := ['j', 's', 'o', 'n']

/-- Whether a content type announces JSON. -/
def isJson (s : String) : Bool :=
  let printable := s.toList.all fun c => ' ' ≤ c && c ≤ '~'
  match token (s.toList.map Char.toLower) with
  | (main, '/' :: rest) =>
    match token rest with
    | (sub, rest) =>
      let parts := splitSuffix sub
      let parameters := match rest with
        | [] => true
        | ';' :: rest => parametersOk rest
        | _ => false
      printable && main == "application".toList && sub != [] && parameters
        && (parts.1 == json || parts.2 == some json)
  | _ => false

end Mintmark.Http.MediaType
