import BearerCache.Proofs.FormEncoding
import BearerCache.Request.Key

/-! # A key stands for one request

The text of a key is the label of a kind, a bar, and a form.  No label has a bar in it, so the
first bar divides the two; the label tells the kind and the form its options.

## Key results

- `EntryKey.labelChars_ofRequest` / `EntryKey.formChars_ofRequest`: the two parts of a key
- `TokenRequest.key_injective`: requests with the same key are the same
-/

namespace BearerCache

/-- No label has a bar in it. -/
private theorem TokenKind.ne_bar_of_mem_label {kind : TokenKind} :
    ∀ c ∈ kind.label.toList, (c != '|') = true := by
  cases kind <;> exact List.all_eq_true.mp (by decide)

private theorem TokenKind.label_injective {a b : TokenKind} (h : a.label = b.label) : a = b := by
  cases a <;> cases b <;> first | rfl | exact absurd h (by decide)

namespace EntryKey

/-- The characters of a key before its first bar. -/
def labelChars (key : EntryKey) : List Char :=
  key.text.toList.takeWhile (· != '|')

/-- The characters of a key after its first bar. -/
def formChars (key : EntryKey) : List Char :=
  (key.text.toList.dropWhile (· != '|')).drop 1

/-- A key is written as a label, a bar and a form. -/
theorem toList_text_ofRequest (request : TokenRequest) :
    (ofRequest request).text.toList =
      request.kind.label.toList ++ '|' :: (Text.Form.encode request.options.entries).toList := by
  simp [ofRequest, String.toList_append]

/-- Before the first bar of a key stands the label of the kind. -/
theorem labelChars_ofRequest (request : TokenRequest) :
    (ofRequest request).labelChars = request.kind.label.toList := by
  rw [labelChars, toList_text_ofRequest,
    List.takeWhile_append_of_pos TokenKind.ne_bar_of_mem_label]
  simp

/-- After the first bar of a key stands the form of the options. -/
theorem formChars_ofRequest (request : TokenRequest) :
    (ofRequest request).formChars = (Text.Form.encode request.options.entries).toList := by
  rw [formChars, toList_text_ofRequest,
    List.dropWhile_append_of_pos TokenKind.ne_bar_of_mem_label]
  simp

end EntryKey

/-- Maps with the same entries are the same. -/
private theorem NameMap.eq_of_entries {α : Type} {a b : NameMap α} (h : a.entries = b.entries) :
    a = b := by
  cases a
  cases b
  cases h
  rfl

/-- Requests of one kind with the same form in their keys have the same key. -/
theorem TokenRequest.key_eq_of_formChars {a b : TokenRequest} (hkind : a.kind = b.kind)
    (hform : a.key.formChars = b.key.formChars) : a.key = b.key := by
  rw [key, key, EntryKey.formChars_ofRequest, EntryKey.formChars_ofRequest] at hform
  rw [key, key, EntryKey.ofRequest, EntryKey.ofRequest, hkind, String.toList_injective hform]

/-- Requests with the same key are the same. -/
theorem TokenRequest.key_injective {a b : TokenRequest} (h : a.key = b.key) : a = b := by
  -- The label stands before the colon and the form behind it, so equal keys agree in both.
  have hlabel : a.kind.label = b.kind.label := by
    have hchars := congrArg EntryKey.labelChars h
    rw [key, key, EntryKey.labelChars_ofRequest, EntryKey.labelChars_ofRequest] at hchars
    exact String.toList_injective hchars
  have hform : Text.Form.encode a.options.entries = Text.Form.encode b.options.entries := by
    have hchars := congrArg EntryKey.formChars h
    rw [key, key, EntryKey.formChars_ofRequest, EntryKey.formChars_ofRequest] at hchars
    exact String.toList_injective hchars
  -- The form can be decoded, which gives the options back.
  have hentries := congrArg Text.Form.decode hform
  rw [Text.Form.decode_encode, Text.Form.decode_encode] at hentries
  obtain ⟨kind, options⟩ := a
  obtain ⟨kind', options'⟩ := b
  rw [mk.injEq]
  exact ⟨TokenKind.label_injective hlabel, NameMap.eq_of_entries hentries⟩

end BearerCache
