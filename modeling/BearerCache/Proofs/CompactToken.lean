import BearerCache.Expiry
import BearerCache.Proofs.Base64Text
import BearerCache.Proofs.JsonStrings
import BearerCache.Proofs.TextParts

/-! # The payload of a compact token

A compact token is three texts without dots, divided by dots.  The one in the middle is the Base64
form of the payload, and padding behind it makes no difference.

## Key results

- `payload?_compact`: the payload of a compact token is what was put into it
- `exists_compact`: every token whose payload is read is a compact token with this payload
-/

namespace BearerCache

namespace Expiry

variable {token header signature : String} {json payload : List UInt8} {pads : Nat}

/-- The token of a header, a payload with padding behind it, and a signature. -/
def compact (header : String) (json : List UInt8) (pads : Nat) (signature : String) : String :=
  header ++ "." ++ Text.Base64.encode .urlSafe json ++ String.ofList (List.replicate pads '=') ++
    "." ++ signature

theorem toList_compact :
    (compact header json pads signature).toList =
      header.toList ++ '.' :: (((Text.Base64.encode .urlSafe json).toList ++
        List.replicate pads '=') ++ '.' :: signature.toList) := by
  simp [compact]

/-- Padding is taken off the end of a text that does not end in it. -/
theorem dropWhile_reverse_append {cs : List Char} (h : '=' ∉ cs) (pads : Nat) :
    ((cs ++ List.replicate pads '=').reverse.dropWhile (· == '=')).reverse = cs := by
  have hpads : ∀ c ∈ List.replicate pads '=', (c == '=') = true := by simp
  rw [List.reverse_append, List.reverse_replicate, List.dropWhile_append_of_pos hpads]
  -- The padding is gone, and what stands before it does not end in a padding sign.
  cases hcs : cs.reverse with
  | nil => simpa using hcs.symm
  | cons c rest =>
    have hc : c ≠ '=' := by
      rintro rfl
      exact h (List.mem_reverse.mp (hcs ▸ List.mem_cons_self))
    rw [List.dropWhile_cons_of_neg (by simpa using hc), ← hcs, List.reverse_reverse]

/-- Padding at the end of a text is all that is taken off it. -/
theorem exists_replicate (cs : List Char) :
    ∃ pads, cs = (cs.reverse.dropWhile (· == '=')).reverse ++ List.replicate pads '=' := by
  -- The padding is all that is dropped from the end.
  have hall : (cs.reverse.takeWhile (· == '=')).all (· == '=') := List.all_takeWhile
  have hpads : cs.reverse.takeWhile (· == '=') =
      List.replicate (cs.reverse.takeWhile (· == '=')).length '=' :=
    List.eq_replicate_of_mem fun c hc => by simpa using List.all_eq_true.mp hall c hc
  refine ⟨(cs.reverse.takeWhile (· == '=')).length, ?_⟩
  have hsplit := congrArg List.reverse
    (List.takeWhile_append_dropWhile (p := (· == '=')) (l := cs.reverse))
  rw [List.reverse_append, List.reverse_reverse, hpads, List.reverse_replicate] at hsplit
  exact hsplit.symm

/-- No padding is in a Base64 form. -/
theorem padding_not_mem_encode (json : List UInt8) :
    '=' ∉ (Text.Base64.encode .urlSafe json).toList := by
  have hall : ∀ n : Fin 64,
      '=' ≠ Char.ofNat (Text.Base64.symbol .urlSafe n.val).toNat := by decide
  intro hmem
  obtain ⟨n, hn⟩ := Text.Base64.exists_symbol_of_mem_encode hmem
  exact hall n hn

/-- Three texts without dots are the segments of what they make with dots between them. -/
theorem segments_append {first second third : List Char} (hfirst : '.' ∉ first)
    (hsecond : '.' ∉ second) (hthird : '.' ∉ third) :
    (first ++ '.' :: (second ++ '.' :: third)).splitOn '.' = [first, second, third] := by
  rw [List.splitOn_append_cons_self_of_not_mem hfirst,
    List.splitOn_append_cons_self_of_not_mem hsecond, List.splitOn_eq_singleton hthird]

/-- The payload of a compact token is what was put into it. -/
theorem payload?_compact (hheader : '.' ∉ header.toList) (hsignature : '.' ∉ signature.toList)
    (hjson : json ≠ []) :
    payload? (compact header json pads signature) =
      some (Text.bytes (Text.Base64.encode .urlSafe json)) := by
  -- No point and no padding sign is among the symbols of Base64, so both are found where they were
  -- put.
  have hmiddle : '.' ∉ (Text.Base64.encode .urlSafe json).toList ++ List.replicate pads '=' := by
    rw [List.mem_append, not_or]
    exact ⟨Text.Base64.not_mem_encode .urlSafe json, by simp⟩
  -- A middle segment without symbols would be the form of no bytes at all.
  have hne : (Text.Base64.encode .urlSafe json).toList ++ List.replicate pads '=' ≠ [] := by
    intro hnil
    have hempty : Text.Base64.encode .urlSafe json = Text.Base64.encode .urlSafe [] :=
      String.toList_inj.mp (List.append_eq_nil_iff.mp hnil).1
    exact hjson (Text.Base64.encode_injective hempty)
  rw [payload?, toList_compact, segments_append hheader hmiddle hsignature]
  simp only [if_neg hne, dropWhile_reverse_append (padding_not_mem_encode json),
    String.ofList_toList]

/-- A token whose payload is read is a compact token with what is read as its payload. -/
theorem exists_compact (hpayload : payload? token = some payload)
    (h : Text.Base64.decode .urlSafe .forbidden payload = .ok json) :
    ∃ header signature pads, '.' ∉ header.toList ∧ '.' ∉ signature.toList ∧
      token = compact header json pads signature := by
  unfold payload? at hpayload
  split at hpayload
  next first middle third hsegments =>
    split at hpayload
    next => cases hpayload
    next =>
      obtain rfl := Option.some.inj hpayload
      -- The segments are what is between the points, so there is none in them.
      have hplain : ∀ part ∈ [first, middle, third], '.' ∉ part := by
        intro part hpart hdot
        rw [← hsegments, List.splitOn_eq_splitOnP] at hpart
        have hnot := Text.not_of_mem_splitOnP hpart hdot
        cases hnot
      have htoken : ['.'].intercalate (token.toList.splitOn '.') = token.toList :=
        List.intercalate_splitOn '.'
      rw [hsegments, List.intercalate_cons_cons, List.intercalate_cons_cons,
        List.intercalate_singleton] at htoken
      -- The payload that is read is the one way in which the bytes are written, and it has lost its
      -- padding only.
      have hform := Text.Base64.eq_symbols_of_decode h
      rw [← Text.Base64.bytes_encode] at hform
      have htext := congrArg String.toList (Json.bytes_injective hform)
      rw [String.toList_ofList] at htext
      obtain ⟨pads, hmiddle⟩ := exists_replicate middle
      rw [htext] at hmiddle
      refine ⟨String.ofList first, String.ofList third, pads, ?_, ?_, ?_⟩
      · rw [String.toList_ofList]
        exact hplain first (by simp)
      · rw [String.toList_ofList]
        exact hplain third (by simp)
      · rw [← String.toList_inj, toList_compact, ← hmiddle, String.toList_ofList,
          String.toList_ofList, ← htoken]
        simp
  next => cases hpayload

end Expiry

end BearerCache
