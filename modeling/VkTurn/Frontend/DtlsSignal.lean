import VkTurn.Launcher.ProxyArgs
import VkTurn.Text.Kotlin

/-! # The readiness signal in the client's output

The service takes a line of the client for the end of the DTLS handshake when it holds one of two
phrases of the log, or a marker; the markers are searched in the lower-case text by their
upper-case names.
-/

namespace VkTurn.Frontend

open VkTurn.Launcher VkTurn.Text

/-- `\\s` of Java's regular expressions. -/
def isRegexSpace (char : Char) : Bool :=
  char = ' ' ∨ (0x09 ≤ char.toNat ∧ char.toNat ≤ 0x0d)

/-- Matches a shape in which `d` stands for a digit, and gives the rest. -/
def matchShape : List Char → List Char → Option (List Char)
  | [], rest => some rest
  | 'd' :: shape, char :: rest => if char.isDigit then matchShape shape rest else none
  | expected :: shape, char :: rest => if char = expected then matchShape shape rest else none
  | _ :: _, [] => none

/-- The fraction of a second, when there is one. -/
def skipFraction : List Char → List Char
  | '.' :: digit :: rest =>
    if digit.isDigit then rest.dropWhile Char.isDigit else '.' :: digit :: rest
  | chars => chars

def stripLeadingGoLogTimestamp (chars : List Char) : List Char :=
  match matchShape "dddd/dd/dd dd:dd:dd".toList chars with
  | none => chars
  | some rest =>
    match skipFraction rest with
    | [] => chars
    | first :: rest =>
      if isRegexSpace first then (rest.dropWhile isRegexSpace).dropWhile kotlinSpace else chars

/-- The text of a line that is searched for signals. -/
def signalText (raw : String) : List Char :=
  let trimmed := (kotlinTrim raw).toList.dropWhile (·.toNat = 0xfeff)
  let stripped := stripLeadingGoLogTimestamp
    (stripLeadingGoLogTimestamp (stripLeadingGoLogTimestamp trimmed))
  stripped.dropWhile kotlinSpace

def statusKey : String := "PROXY_STATUS:"
def eventKey : String := "PROXY_EVENT:"

def isReadyPhase (chars : List Char) : Bool :=
  let phase := lowercase (trimChars kotlinSpace chars)
  phase = "dtls_ready".toList ∨ phase = "ok".toList

section Signal

-- The `phase` of a JSON object, or nothing when the text is none.
variable (phaseOf : String → Option String)

def payload (key : String) (start : Nat) (text : List Char) : List Char :=
  trimChars kotlinSpace (text.drop (start + key.toList.length))

def isReadyPhrase (lower : List Char) : Bool :=
  (indexOf "probe connection" lower).isNone &&
    ((indexOf "established dtls connection!" lower).isSome ||
      (indexOf "completed mu negotiation" lower).isSome)

/-- Whether `ingestProxyDtlsSignal` sets `dtlsReady`. -/
def ingestProxyDtlsSignal (raw : String) : Bool :=
  let text := signalText raw
  let lower := lowercase text
  if isReadyPhrase lower then true
  else
    match indexOf statusKey lower with
    | some start => isReadyPhase (payload statusKey start text)
    | none =>
      match indexOf eventKey lower with
      | none => false
      | some start =>
        let json := payload eventKey start text
        match phaseOf (String.ofList json) with
        | some phase => isReadyPhase phase.toList
        | none => (indexOf "dtls_ready" json).isSome

/-- The line is a `dtls_ready` status of the client. -/
def announcesDtlsReady (raw : String) : Bool :=
  let text := signalText raw
  match indexOf statusKey text with
  | some start => payload statusKey start text = "dtls_ready".toList
  | none =>
    match indexOf eventKey text with
    | none => false
    | some start => phaseOf (String.ofList (payload eventKey start text)) = some "dtls_ready"

/-- The markers are never found: only the phrases set `dtlsReady`. -/
theorem ingestProxyDtlsSignal_eq (raw : String) :
    ingestProxyDtlsSignal phaseOf raw = isReadyPhrase (lowercase (signalText raw)) := by
  have notFound (key : String) (isMarker : 'P' ∈ key.toList) :
      indexOf key (lowercase (signalText raw)) = none := by
    by_contra found
    obtain ⟨start, isStart⟩ := Option.ne_none_iff_exists'.mp found
    exact lowercase_free rfl (mem_of_indexOf isStart isMarker)
  simp only [ingestProxyDtlsSignal, notFound statusKey (by decide), notFound eventKey (by decide)]
  simp

end Signal

end VkTurn.Frontend
