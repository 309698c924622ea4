import Mathlib.Data.List.TakeWhile
import RequestCatalog.Text.Percent

/-! # Characters in bytes

  An address is spelled in bytes and read from them. Every character is spelled in one to four
  bytes (`Utf8.encodeChar_eq`), and the first of them tells how many follow and bounds the second
  one (`Utf8.lead?_three`, `Utf8.lead?_four`). So what is spelled is read again, whatever stands
  behind it (`Utf8.decode_encodeChar`), and a text without percent signs means itself
  (`Percent.decode_of_not_mem`).
-/

namespace RequestCatalog

namespace Utf8

/-- The bytes of a character, by how many there are. -/
theorem encodeChar_eq (c : Char) :
    encodeChar c =
      if c.toNat < 0x80 then [c.toNat]
      else if c.toNat < 0x800 then [c.toNat / 64 + 0xC0, c.toNat % 64 + 0x80]
      else if c.toNat < 0x10000 then
        [c.toNat / 4096 + 0xE0, c.toNat / 64 % 64 + 0x80, c.toNat % 64 + 0x80]
      else
        [c.toNat / 262144 + 0xF0, c.toNat / 4096 % 64 + 0x80, c.toNat / 64 % 64 + 0x80,
          c.toNat % 64 + 0x80] := by
  have hlast : c.toNat < 0x110000 := by
    rcases c.valid with h | ⟨-, h⟩
    · exact Nat.lt_trans h (by decide)
    · exact h
  rw [encodeChar, String.utf8EncodeChar]
  simp only [show c.val.toNat = c.toNat from rfl, ← Nat.lt_succ_iff, Nat.succ_eq_add_one,
    Nat.reduceAdd]
  split
  · simp; omega
  · split
    · simp; omega
    · split
      · simp; omega
      · simp; omega

/-- The bytes that follow a first byte are found where they belong to it. -/
theorem followers_eq {lead : Lead} {second : Nat} {others rest : List Nat}
    (hsecond : lead.least ≤ second ∧ second ≤ lead.greatest)
    (hothers : ∀ b ∈ others, 0x80 ≤ b ∧ b ≤ 0xBF) (hlength : others.length + 1 = lead.following) :
    followers lead (second :: (others ++ rest)) = second :: others := by
  have htake : (others ++ rest).take (lead.following - 1) = others :=
    List.take_left' (by omega)
  unfold followers
  simp only [hsecond, and_self, if_true, htake, List.cons.injEq, true_and]
  exact List.takeWhile_eq_self_iff.mpr fun b hb => by simpa using hothers b hb

/-- A character that is spelled out in several bytes is read again. -/
theorem decode_cons_of_lead {b second : Nat} {lead : Lead} (others : List Nat) {rest : List Nat}
    {c : Char}
    (hb : ¬ b < 0x80) (hlead : lead? b = some lead)
    (hsecond : lead.least ≤ second ∧ second ≤ lead.greatest)
    (hothers : ∀ b ∈ others, 0x80 ≤ b ∧ b ≤ 0xBF) (hlength : others.length + 1 = lead.following)
    (hc : (second :: others).foldl (fun n byte => n * 64 + (byte - 0x80)) lead.bits = c.toNat) :
    decode (b :: second :: (others ++ rest)) = c :: decode rest := by
  rw [decode, if_neg hb, hlead]
  simp only [followers_eq hsecond hothers hlength, List.length_cons, hlength, if_true, hc,
    Char.ofNat_toNat]
  rw [← hlength, List.drop_succ_cons, List.drop_left]

/-- What a first byte says about a character of three bytes. The second byte of the shortest ones
    is bounded from below, and that of those before the halves of pairs from above. -/
theorem lead?_three {v : Nat} (hlong : 0x800 ≤ v) (hshort : v < 0x10000)
    (hwhole : v < 0xD800 ∨ 0xDFFF < v) :
    ∃ lead, lead? (v / 4096 + 0xE0) = some lead ∧ lead.following = 2 ∧ lead.bits = v / 4096 ∧
      lead.least ≤ v / 64 % 64 + 0x80 ∧ v / 64 % 64 + 0x80 ≤ lead.greatest := by
  unfold lead?
  rw [if_neg (by omega), if_neg (by omega)]
  split
  · exact ⟨_, rfl, rfl, by simp; omega, by simp; omega⟩
  · split
    · exact ⟨_, rfl, rfl, by simp; omega, by simp; omega⟩
    · rw [if_pos (by omega)]
      exact ⟨_, rfl, rfl, by simp, by simp; omega⟩

/-- What a first byte says about a character of four bytes. -/
theorem lead?_four {v : Nat} (hlong : 0x10000 ≤ v) (hlast : v < 0x110000) :
    ∃ lead, lead? (v / 262144 + 0xF0) = some lead ∧ lead.following = 3 ∧ lead.bits = v / 262144 ∧
      lead.least ≤ v / 4096 % 64 + 0x80 ∧ v / 4096 % 64 + 0x80 ≤ lead.greatest := by
  unfold lead?
  rw [if_neg (by omega), if_neg (by omega), if_neg (by omega), if_neg (by omega),
    if_neg (by omega)]
  split
  · exact ⟨_, rfl, rfl, by simp; omega, by simp; omega⟩
  · split
    · exact ⟨_, rfl, rfl, by simp, by simp; omega⟩
    · rw [if_pos (by omega)]
      exact ⟨_, rfl, rfl, by simp; omega, by simp; omega⟩

/-- The bytes of a character are read as this character. -/
theorem decode_encodeChar (c : Char) (rest : List Nat) :
    decode (encodeChar c ++ rest) = c :: decode rest := by
  have hvalid : c.toNat < 0xD800 ∨ 0xDFFF < c.toNat ∧ c.toNat < 0x110000 := c.valid
  rw [encodeChar_eq]
  -- one case for each number of bytes; that no character is a half is needed for three of them
  split
  · next hone => simp [decode, hone, Char.ofNat_toNat]
  · split
    · have hlead : lead? (c.toNat / 64 + 0xC0) = some ⟨1, 0x80, 0xBF, c.toNat / 64⟩ := by
        unfold lead?
        rw [if_neg (by omega), if_pos (by omega)]
        simp
      exact decode_cons_of_lead [] (by omega) hlead (by simp; omega) (by simp) rfl
        (by simp; omega)
    · split
      · obtain ⟨lead, hlead, hfollowing, hbits, hsecond⟩ :=
          lead?_three (v := c.toNat) (by omega) (by omega) (by omega)
        exact decode_cons_of_lead [_] (by omega) hlead hsecond
          (by simp; omega) (by simp [hfollowing]) (by simp [hbits]; omega)
      · obtain ⟨lead, hlead, hfollowing, hbits, hsecond⟩ :=
          lead?_four (v := c.toNat) (by omega) (by omega)
        exact decode_cons_of_lead [_, _] (by omega) hlead hsecond
          (by simp; omega) (by simp [hfollowing]) (by simp [hbits]; omega)

/-- Characters that are spelled out in bytes are read again. -/
theorem decode_flatMap_encodeChar (cs : List Char) : decode (cs.flatMap encodeChar) = cs := by
  induction cs with
  | nil => simp [decode]
  | cons c rest ih => rw [List.flatMap_cons, decode_encodeChar, ih]

end Utf8

namespace Percent

theorem bytes_cons_of_ne {c : Char} (h : c ≠ '%') (rest : List Char) :
    bytes (c :: rest) = Utf8.encodeChar c ++ bytes rest := by
  rcases rest with _ | ⟨a, _ | ⟨b, rest⟩⟩ <;> simp [bytes, h]

/-- A text without percent signs means itself. -/
theorem decode_of_not_mem {address : String} (h : '%' ∉ address.toList) :
    decode address = address := by
  have hbytes : ∀ {cs : List Char}, '%' ∉ cs → bytes cs = cs.flatMap Utf8.encodeChar := by
    intro cs hcs
    induction cs with
    | nil => rfl
    | cons c rest ih =>
      simp only [List.mem_cons, not_or] at hcs
      rw [bytes_cons_of_ne (Ne.symm hcs.1), ih hcs.2, List.flatMap_cons]
  unfold decode
  rw [hbytes h, Utf8.decode_flatMap_encodeChar, String.ofList_toList]

end Percent

end RequestCatalog
