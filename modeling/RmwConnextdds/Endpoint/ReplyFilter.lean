import Mathlib.Data.Nat.Digits
import RmwConnextdds.RequestReply

/-! # The reply filter of a client

`RMW_Connext_Client::create` restricts its reply subscription to the replies of its own
requests: a content filter compares each reply's `related_sample_identity.writer_guid` with the
GUID of the client's request writer. It builds two strings into `DDS_String_alloc` buffers with
`snprintf`: the filter's name, the reply topic name, `_` and the GUID in hexadecimal
(`"%s_" GUID_FMT`), and the filter's expression,
`@related_sample_identity.writer_guid.value = &hex(` the same hexadecimal `)`. Each buffer is
sized beforehand: `reply_topic_len + 1 + GUID_SIZE * 2` characters for the name,
`strlen(GUID_FIELD_NAME) + strlen(" = &hex(") + GUID_SIZE * 2 + 1` for the expression.

`replyFilter_exact_injective` shows that both strings are written whole, that the hexadecimal is
the 32-digit uppercase encoding of the GUID's bytes in order, which decodes back to the GUID,
and that the name determines topic and GUID, and the expression the GUID.

## Transcription choices

* A C string is a list of characters with no NUL (`CStr`); `strlen` is its length and `%s`
  prints it.
* Modelled from the C library: `printf`'s `%02X` prints an unsigned value's uppercase
  hexadecimal digits, padded with `0` to two; `snprintf(buf, size, ...)` stores the first
  `size - 1` characters of its output and a NUL. Modelled from the engine's documentation:
  `DDS_String_alloc(n)` returns a buffer of `n + 1` characters, so the size the code passes to
  `snprintf` is the buffer's.
* The request writer's GUID goes through `rmw_connextdds_ih_to_gid` and
  `rmw_connextdds_gid_to_guid` (`writerGid`, `gidToGuid` of `RmwConnextdds.RequestReply`); the
  latter's return code is ignored, leaving `DDS_GUID_INITIALIZER` on a failure.
* A failed `DDS_String_alloc` is the `attempt` of `clientCreate`; here the allocations succeed.
-/

namespace RmwConnextdds
set_option autoImplicit false

/-! ## C strings and the two C library calls -/

/-- A NUL-terminated string, without its NUL. -/
@[ext] structure CStr where
  chars : List Char
  no_nul : '\x00' ∉ chars

/-- `strlen`. -/
def strlen (s : CStr) : Nat := s.chars.length

/-- `printf`'s `%02X` of an `unsigned int`. -/
def fmt02X (n : Nat) : List Char :=
  let digits := (Nat.toDigits 16 n).map Char.toUpper
  List.replicate (2 - digits.length) '0' ++ digits

/-- What `snprintf(buf, size, ...)` stores before the terminating NUL, for `size ≥ 1`. -/
def snprintf (size : Nat) (out : List Char) : List Char := out.take (size - 1)

/-! ## The two strings of `RMW_Connext_Client::create` -/

/-- `GUID_SIZE`. -/
def guidSize : Nat := 16

/-- `GUID_FIELD_NAME`. -/
def guidFieldName : CStr := ⟨"@related_sample_identity.writer_guid.value".toList, by decide⟩

/-- `GUID_FMT` printed with `GUID_FMT_ARGS(g)`: `%02X` of each of the GUID's sixteen bytes. -/
def guidFmt (g : Guid) : List Char := g.value.flatMap fun b => fmt02X b.toNat

/-- `DDS_GUID_INITIALIZER`. -/
def ddsGuidInitializer : Guid := ⟨List.replicate 16 0, rfl⟩

/-- `writer_guid`: the request writer's instance handle through `rmw_connextdds_ih_to_gid` and
`rmw_connextdds_gid_to_guid`, whose return code is ignored. -/
def writerGuidOf (g : Guid) : Guid := (gidToGuid (writerGid g)).getD ddsGuidInitializer

/-- `cft_name_len`. -/
def cftNameLen (replyTopic : CStr) : Nat := strlen replyTopic + 1 + guidSize * 2

/-- The filter's name: `snprintf(cft_name, cft_name_len + 1, "%s_" GUID_FMT, ...)`. -/
def cftName (replyTopic : CStr) (writerGuid : Guid) : List Char :=
  snprintf (cftNameLen replyTopic + 1) (replyTopic.chars ++ '_' :: guidFmt writerGuid)

/-- `cft_filter_len`. -/
def cftFilterLen : Nat := strlen guidFieldName + " = &hex(".length + guidSize * 2 + 1

/-- The filter's expression: `snprintf(cft_filter, cft_filter_len + 1, "%s = &hex(" GUID_FMT ")",
...)`. -/
def cftFilter (writerGuid : Guid) : List Char :=
  snprintf (cftFilterLen + 1)
    (guidFieldName.chars ++ " = &hex(".toList ++ guidFmt writerGuid ++ [')'])

/-! ## The encoding, on its own terms -/

def hexAlphabet : List Char := "0123456789ABCDEF".toList

/-- The uppercase hexadecimal encoding of a byte string: two digits per byte, high half first. -/
def hexEncode (bytes : List UInt8) : List Char :=
  bytes.flatMap fun b => [hexAlphabet.getD (b.toNat / 16) '0', hexAlphabet.getD (b.toNat % 16) '0']

def hexDigitValue (c : Char) : Option Nat :=
  if '0' ≤ c ∧ c ≤ '9' then some (c.toNat - '0'.toNat)
  else if 'A' ≤ c ∧ c ≤ 'F' then some (c.toNat - 'A'.toNat + 10)
  else none

/-- Reading a `&hex(...)` literal: two digits per byte. -/
def decodeHex : List Char → Option (List UInt8)
  | [] => some []
  | [_] => none
  | hi :: lo :: rest => do
    let h ← hexDigitValue hi
    let l ← hexDigitValue lo
    let bytes ← decodeHex rest
    return UInt8.ofNat (16 * h + l) :: bytes

/-! ## `%02X` is the encoding -/

theorem toDigits_byte {b : Nat} (hb : b < 256) :
    Nat.toDigits 16 b =
      if b < 16 then [Nat.digitChar b] else [Nat.digitChar (b / 16), Nat.digitChar (b % 16)] := by
  unfold Nat.toDigits
  split_ifs with h
  · simp [Nat.toDigitsCore, Nat.div_eq_of_lt h, Nat.mod_eq_of_lt h]
  · obtain ⟨c, rfl⟩ : ∃ c, b = c + 1 := ⟨b - 1, by omega⟩
    have h₁ : (c + 1) / 16 ≠ 0 := by omega
    have h₂ : (c + 1) / 16 % 16 = (c + 1) / 16 := by omega
    have h₃ : (c + 1) / 16 / 16 = 0 := by omega
    simp [Nat.toDigitsCore, h₁, h₂, h₃]

theorem upper_digitChar : ∀ n < 16, (Nat.digitChar n).toUpper = hexAlphabet.getD n '0' := by
  decide

theorem fmt02X_byte {b : Nat} (hb : b < 256) :
    fmt02X b = [hexAlphabet.getD (b / 16) '0', hexAlphabet.getD (b % 16) '0'] := by
  simp only [fmt02X, toDigits_byte hb]
  split_ifs with h
  · simp [Nat.div_eq_of_lt h, Nat.mod_eq_of_lt h, upper_digitChar b h]
    rfl
  · simp [upper_digitChar _ (by omega : b / 16 < 16), upper_digitChar _ (Nat.mod_lt b (by omega))]

example : fmt02X 10 = ['0', 'A'] ∧ fmt02X 171 = ['A', 'B'] := by decide

theorem guidFmt_eq (g : Guid) : guidFmt g = hexEncode g.value := by
  unfold guidFmt hexEncode
  congr 1
  funext b
  exact fmt02X_byte b.toNat_lt_size

theorem length_hexEncode (bytes : List UInt8) : (hexEncode bytes).length = 2 * bytes.length := by
  induction bytes with
  | nil => rfl
  | cons b bytes ih =>
    simp only [hexEncode, List.flatMap_cons, List.length_append, List.length_cons,
      List.length_nil] at ih ⊢
    omega

theorem hexDigitValue_getD : ∀ n < 16, hexDigitValue (hexAlphabet.getD n '0') = some n := by
  decide

theorem decodeHex_hexEncode (bytes : List UInt8) : decodeHex (hexEncode bytes) = some bytes := by
  induction bytes with
  | nil => rfl
  | cons b bytes ih =>
    have hb : b.toNat < 256 := b.toNat_lt_size
    have hhalves : UInt8.ofNat (16 * (b.toNat / 16) + b.toNat % 16) = b :=
      UInt8.toNat.inj (show (16 * (b.toNat / 16) + b.toNat % 16) % 256 = b.toNat by omega)
    simp only [hexEncode, List.flatMap_cons, List.cons_append, List.nil_append] at ih ⊢
    simp only [decodeHex, hexDigitValue_getD _ (by omega : b.toNat / 16 < 16),
      hexDigitValue_getD _ (by omega : b.toNat % 16 < 16), ih]
    exact congrArg (fun x => some (x :: bytes)) hhalves

theorem writerGuidOf_eq (g : Guid) : writerGuidOf g = g := by
  simp [writerGuidOf, writerGid]

theorem snprintf_of_le {size : Nat} {out : List Char} (h : out.length ≤ size) :
    snprintf (size + 1) out = out :=
  List.take_of_length_le h

theorem hexEncode_injective {a b : List UInt8} (h : hexEncode a = hexEncode b) : a = b :=
  Option.some.inj ((decodeHex_hexEncode a).symm.trans (h ▸ decodeHex_hexEncode b))

theorem length_guidFmt (g : Guid) : (guidFmt g).length = guidSize * 2 := by
  rw [guidFmt_eq, length_hexEncode, g.length_eq]
  rfl

/-! ## The two strings are written whole, and tell clients apart -/

theorem length_cftName_text (t : CStr) (g : Guid) :
    (t.chars ++ '_' :: guidFmt g).length = cftNameLen t := by
  simp only [List.length_append, List.length_cons, length_guidFmt, cftNameLen, strlen]
  omega

theorem length_cftFilter_text (g : Guid) :
    (guidFieldName.chars ++ " = &hex(".toList ++ guidFmt g ++ [')']).length = cftFilterLen := by
  simp only [List.length_append, length_guidFmt, cftFilterLen, strlen, String.length]
  rfl

theorem cftName_eq (t : CStr) (g : Guid) : cftName t g = t.chars ++ '_' :: hexEncode g.value := by
  rw [cftName, snprintf_of_le (le_of_eq (length_cftName_text t g)), guidFmt_eq]

theorem cftFilter_eq (g : Guid) :
    cftFilter g = guidFieldName.chars ++ " = &hex(".toList ++ hexEncode g.value ++ [')'] := by
  rw [cftFilter, snprintf_of_le (le_of_eq (length_cftFilter_text g)), guidFmt_eq]

/-- For every reply topic `t` and request writer GUID `g`, `snprintf` writes both strings whole:
the name is `t`, `_` and `H(g)`, the expression `@related_sample_identity.writer_guid.value =
&hex(H(g))`, where `H(g)` is the 32 uppercase hexadecimal digits of `g`'s bytes in order and
reads back as `g`; the two computed buffer lengths are the printed lengths. The name determines
topic and GUID, and the expression the GUID. -/
theorem replyFilter_exact_injective (t : CStr) (g : Guid) :
    cftName t (writerGuidOf g) = t.chars ++ '_' :: hexEncode g.value ∧
    cftFilter (writerGuidOf g) =
      guidFieldName.chars ++ " = &hex(".toList ++ hexEncode g.value ++ [')'] ∧
    (t.chars ++ '_' :: guidFmt (writerGuidOf g)).length = cftNameLen t ∧
    (guidFieldName.chars ++ " = &hex(".toList ++ guidFmt (writerGuidOf g) ++ [')']).length =
      cftFilterLen ∧
    (hexEncode g.value).length = 32 ∧
    decodeHex (hexEncode g.value) = some g.value ∧
    (∀ t' g', cftName t (writerGuidOf g) = cftName t' (writerGuidOf g') → t = t' ∧ g = g') ∧
    (∀ g', cftFilter (writerGuidOf g) = cftFilter (writerGuidOf g') → g = g') := by
  simp only [writerGuidOf_eq, cftName_eq, cftFilter_eq]
  refine ⟨trivial, trivial, length_cftName_text t g, length_cftFilter_text g,
    by rw [length_hexEncode, g.length_eq], decodeHex_hexEncode _, fun t' g' h => ?_, fun g' h => ?_⟩
  · have hlen : ('_' :: hexEncode g.value).length = ('_' :: hexEncode g'.value).length := by
      simp only [List.length_cons, length_hexEncode, g.length_eq, g'.length_eq]
    obtain ⟨ht, hg⟩ := List.append_inj' h hlen
    exact ⟨CStr.ext ht, Guid.ext (hexEncode_injective (List.cons.inj hg).2)⟩
  · exact Guid.ext (hexEncode_injective (List.append_cancel_left
      (List.append_cancel_right h)))

end RmwConnextdds
