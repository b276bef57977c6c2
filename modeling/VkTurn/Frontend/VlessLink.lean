import VkTurn.Launcher.ProxyArgs
import VkTurn.Text.Kotlin

/-! # VLESS links

`parseVlessLink` cuts a link at its separators and decodes the parameters it knows.
-/

namespace VkTurn.Frontend

open VkTurn.Launcher VkTurn.Text

/-- `Character.digit` in base 16. -/
def hexDigitOf (char : Char) : Option Nat :=
  let letter (first : Nat) : Option Nat :=
    if first ≤ char.toNat ∧ char.toNat < first + 6 then some (char.toNat - first + 10) else none
  digitOf char <|> letter 0x41 <|> letter 0x61 <|> letter 0xff21 <|> letter 0xff41

/-- `toIntOrNull(16)` of two characters; the first one may be a sign. -/
def hexNumber (first second : Char) : Option Int :=
  if first < '0' then
    if first = '-' then (hexDigitOf second).map fun digit => -(digit : Int)
    else if first = '+' then (hexDigitOf second).map Int.ofNat
    else none
  else
    (hexDigitOf first).bind fun high => (hexDigitOf second).map fun low => (high * 16 + low : Nat)

/-- `toChar` of an integer. -/
def intToChar (code : Int) : Char := Char.ofNat (code % 65536).toNat

/-- `decode`: each escape becomes a character of its own. -/
def decodeChars : List Char → List Char
  | [] => []
  | '%' :: first :: second :: rest =>
    match hexNumber first second with
    | some code => intToChar code :: decodeChars rest
    | none => '%' :: decodeChars (first :: second :: rest)
  | char :: rest => (if char = '+' then ' ' else char) :: decodeChars rest

def decode (text : String) : String := String.ofList (decodeChars text.toList)

/-- What stands before and after the first separator. -/
def cutFirst (separator : Char) (chars : List Char) : Option (List Char × List Char) :=
  if separator ∈ chars then
    some (chars.takeWhile (· ≠ separator), (chars.dropWhile (· ≠ separator)).tail)
  else none

/-- What stands before and after the last separator. -/
def cutLast (separator : Char) (chars : List Char) : Option (List Char × List Char) :=
  if separator ∈ chars then
    some ((chars.rdropWhile (· ≠ separator)).dropLast, chars.rtakeWhile (· ≠ separator))
  else none

section Cut

variable {separator : Char} {before after : List Char}

theorem takeWhile_free (free : separator ∉ before) :
    (before ++ separator :: after).takeWhile (· ≠ separator) = before := by
  have others : ∀ char ∈ before, decide (char ≠ separator) = true :=
    fun char member => decide_eq_true fun same => free (same ▸ member)
  rw [List.takeWhile_append_of_pos others, List.takeWhile_cons_of_neg (by simp), List.append_nil]

/-- A first separator is cut at. -/
theorem cutFirst_append (free : separator ∉ before) :
    cutFirst separator (before ++ separator :: after) = some (before, after) := by
  have others : ∀ char ∈ before, decide (char ≠ separator) = true :=
    fun char member => decide_eq_true fun same => free (same ▸ member)
  rw [cutFirst, if_pos (by simp), takeWhile_free free, List.dropWhile_append_of_pos others,
    List.dropWhile_cons_of_neg (by simp), List.tail_cons]

theorem cutFirst_free (free : separator ∉ before) : cutFirst separator before = none := if_neg free

/-- A last separator is cut at. -/
theorem cutLast_append (free : separator ∉ after) :
    cutLast separator (before ++ separator :: after) = some (before, after) := by
  have others : ∀ char ∈ after.reverse, decide (char ≠ separator) = true := by
    intro char member
    exact decide_eq_true fun same => free (same ▸ List.mem_reverse.mp member)
  have reversed : (before ++ separator :: after).reverse =
      after.reverse ++ separator :: before.reverse := by simp
  rw [cutLast, if_pos (by simp), List.rdropWhile, List.rtakeWhile, reversed,
    List.dropWhile_append_of_pos others, List.takeWhile_append_of_pos others,
    List.dropWhile_cons_of_neg (by simp), List.takeWhile_cons_of_neg (by simp)]
  simp

theorem cutLast_free (free : separator ∉ before) : cutLast separator before = none := if_neg free

end Cut

structure ParsedVless where
  uuid : String
  host : String
  port : Int32
  security : String
  sni : String
  alpn : List String
  flow : String
  publicKey : String
  shortId : String
  fingerprint : String
  transport : String
  path : String
  hostHeader : String
  serviceName : String
  deriving DecidableEq

/-- The uuid and what follows it. -/
def cutUuid (body : List Char) : List Char × List Char :=
  match cutFirst '@' body with
  | some (uuid, rest) => if uuid = [] then ([], body) else (uuid, rest)
  | none => ([], body)

def parseHostPort (hostPart : List Char) : String × Int32 :=
  match cutLast ':' hostPart with
  | some (host, port) => (String.ofList host, (toIntOrNull (String.ofList port)).getD 443)
  | none => (String.ofList hostPart, 443)

def parseParam (part : List Char) : Option (String × String) :=
  match cutFirst '=' part with
  | some (key, value) =>
    if key = [] then none
    else some (String.ofList (decodeChars key), String.ofList (decodeChars value))
  | none => none

def parseParams (query : List Char) : List (String × String) :=
  (query.splitOn '&').filterMap parseParam

/-- `toMap`: the last value of a key counts. -/
def paramOf (params : List (String × String)) (key : String) : Option String :=
  params.reverse.lookup key

/-- The fields that are read from the parameters. -/
def vlessOf (uuid host : String) (port : Int32) (params : List (String × String)) :
    ParsedVless :=
  let orEmpty (key : String) : String := (paramOf params key).getD ""
  { uuid := uuid
    host := host
    port := port
    security := orEmpty "security"
    sni := orEmpty "sni"
    alpn := ((paramOf params "alpn").map (entries kotlinSpace ',')).getD []
    flow := orEmpty "flow"
    publicKey := orEmpty "pbk"
    shortId := orEmpty "sid"
    fingerprint := orEmpty "fp"
    transport := orEmpty "type"
    path := orEmpty "path"
    hostHeader := orEmpty "host"
    serviceName := orEmpty "serviceName" }

def parseVlessLink (link : String) : ParsedVless :=
  let body := substringBefore '#' (removePrefix "vless://" (kotlinTrim link))
  let (uuid, rest) := cutUuid body.toList
  let (hostPortPath, query) := (cutFirst '?' rest).getD (rest, [])
  let (host, port) := parseHostPort (hostPortPath.takeWhile (· ≠ '/'))
  vlessOf (String.ofList uuid) host port (parseParams query)

end VkTurn.Frontend
