import VkTurn.Text.KotlinDecimal
import VkTurn.Text.Serializer

/-! # The JSON library of the frontend

What `Json { ignoreUnknownKeys = true; isLenient = true; coerceInputValues = true }` does with
texts and primitives is a parameter; that it reads back the primitives it writes is what the
serializers rely on.
-/

namespace VkTurn.Text

structure KotlinJson where
  /-- `parseToJsonElement`; none where it throws. -/
  parseToJsonElement : String → Option JsonValue
  encodeToString : JsonFields → String
  decodeString : JsonValue → Option String
  decodeBoolean : JsonValue → Option Bool
  decodeInt : JsonValue → Option Int32
  decodeLong : JsonValue → Option Int64
  decodeString_string : ∀ text, decodeString (.string text) = some text
  decodeBoolean_bool : ∀ value, decodeBoolean (.bool value) = some value
  decodeInt_number : ∀ value : Int32, decodeInt (.number (toString value.toInt)) = some value
  decodeLong_number : ∀ value : Int64, decodeLong (.number (toString value.toInt)) = some value

namespace KotlinJson

variable (json : KotlinJson)

section Primitives

variable {δ : Type}

def string : Serializer δ String :=
  .primitive .string json.decodeString json.decodeString_string fun _ => nofun

def boolean : Serializer δ Bool :=
  .primitive .bool json.decodeBoolean json.decodeBoolean_bool fun _ => nofun

def int : Serializer δ Int32 :=
  .primitive (fun value => .number (toString value.toInt)) json.decodeInt json.decodeInt_number
    fun _ => nofun

def long : Serializer δ Int64 :=
  .primitive (fun value => .number (toString value.toInt)) json.decodeLong json.decodeLong_number
    fun _ => nofun

/-- `String?`, for which `null` is a value. -/
def nullableString : Serializer δ (Option String) where
  encode _
    | none => .null
    | some text => .string text
  decode _
    | .null => some none
    | written => (json.decodeString written).map some
  absent _ := false
  reread _ _ value := value
  decode_encode _ _
    | none => rfl
    | some text => congrArg (Option.map some) (json.decodeString_string text)
  absent_encode _ _ := rfl

end Primitives

end KotlinJson

end VkTurn.Text
