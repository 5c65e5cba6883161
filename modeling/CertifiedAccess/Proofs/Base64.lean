import CertifiedAccess.Bytes.Base64

/-!
Reading undoes writing in base64 and writing undoes reading: each text that is read is the one text that is
written for its octets, down to its padding and the bits the padding leaves over. What is written holds visible
characters only: no blank, no comma.
-/
namespace CertifiedAccess.Base64

theorem digit_mod (a : Alphabet) (n : Nat) : a.digit (n % 64) = a.digit n := by
  simp only [Alphabet.digit, Nat.mod_mod]

theorem value?_digit_below : ∀ n < 64, standard.value? (standard.digit n) = some n := by
  decide

theorem value?_digit (n : Nat) : standard.value? (standard.digit n) = some (n % 64) := by
  rw [← digit_mod]
  exact value?_digit_below _ (Nat.mod_lt n (by decide))

theorem value?_pad : standard.value? pad = none := by
  decide

theorem digit_ne_pad (n : Nat) : standard.digit n ≠ pad := by
  intro same
  have value := value?_digit n
  rw [same, value?_pad] at value
  contradiction

theorem fullGroup?_digits (x y z : UInt8) {n : Nat}
    (group : n = (x.toNat * 256 + y.toNat) * 256 + z.toNat) :
    fullGroup? (standard.digit (n / 262144)) (standard.digit (n / 4096)) (standard.digit (n / 64))
      (standard.digit n) = some (x, y, z) := by
  have hx := x.toNat_lt
  have hy := y.toNat_lt
  have hz := z.toNat_lt
  simp only [fullGroup?, value?_digit, bind, Option.bind_some, Option.some.injEq, Prod.mk.injEq,
    ← UInt8.toNat_inj, UInt8.toNat_ofNat']
  omega

theorem lastGroup?_three (x y z : UInt8) {n : Nat}
    (group : n = (x.toNat * 256 + y.toNat) * 256 + z.toNat) :
    lastGroup? (standard.digit (n / 262144)) (standard.digit (n / 4096)) (standard.digit (n / 64))
      (standard.digit n) = some [x, y, z] := by
  have hx := x.toNat_lt
  have hy := y.toNat_lt
  have hz := z.toNat_lt
  simp only [lastGroup?, value?_digit, digit_ne_pad, if_false, bind, Option.bind_some,
    Option.some.injEq, List.cons.injEq, and_true]
  simp only [← UInt8.toNat_inj, UInt8.toNat_ofNat']
  omega

theorem lastGroup?_two (x y : UInt8) {n : Nat} (group : n = (x.toNat * 256 + y.toNat) * 4) :
    lastGroup? (standard.digit (n / 4096)) (standard.digit (n / 64)) (standard.digit n) pad =
      some [x, y] := by
  have hx := x.toNat_lt
  have hy := y.toNat_lt
  have rest : n % 64 % 4 = 0 := by omega
  simp only [lastGroup?, value?_digit, digit_ne_pad, rest, if_true, if_false, bind,
    Option.bind_some, Option.some.injEq, List.cons.injEq, and_true]
  simp only [← UInt8.toNat_inj, UInt8.toNat_ofNat']
  omega

theorem lastGroup?_one (x : UInt8) {n : Nat} (group : n = x.toNat * 16) :
    lastGroup? (standard.digit (n / 64)) (standard.digit n) pad pad = some [x] := by
  have hx := x.toNat_lt
  have rest : n % 64 % 16 = 0 := by omega
  simp only [lastGroup?, value?_digit, rest, and_self, if_true, bind, Option.bind_some,
    Option.some.injEq, List.cons.injEq, and_true]
  simp only [← UInt8.toNat_inj, UInt8.toNat_ofNat']
  omega

theorem encodeAfter_eq (done bytes : Bytes) :
    standard.encodeAfter done bytes = done.reverse ++ standard.encode bytes := by
  unfold Alphabet.encode
  match bytes with
  | [] => simp [Alphabet.encodeAfter]
  | [x] => simp [Alphabet.encodeAfter]
  | [x, y] => simp [Alphabet.encodeAfter]
  | x :: y :: z :: rest =>
    rw [Alphabet.encodeAfter, Alphabet.encodeAfter, encodeAfter_eq _ rest, encodeAfter_eq [_, _, _, _] rest]
    simp

theorem encode_group (x y z : UInt8) (rest : Bytes) {n : Nat}
    (group : n = (x.toNat * 256 + y.toNat) * 256 + z.toNat) :
    standard.encode (x :: y :: z :: rest) =
      standard.digit (n / 262144) :: standard.digit (n / 4096) :: standard.digit (n / 64) ::
        standard.digit n :: standard.encode rest := by
  subst group
  rw [Alphabet.encode, Alphabet.encodeAfter, encodeAfter_eq]
  rfl

theorem encode_eq_nil_iff {bytes : Bytes} : standard.encode bytes = [] ↔ bytes = [] := by
  match bytes with
  | [] => simp [Alphabet.encode, Alphabet.encodeAfter]
  | [x] => simp [Alphabet.encode, Alphabet.encodeAfter]
  | [x, y] => simp [Alphabet.encode, Alphabet.encodeAfter]
  | x :: y :: z :: rest => simp [encode_group x y z rest rfl]

theorem decodeAfter?_encode (done bytes : Bytes) :
    decodeAfter? done (standard.encode bytes) = some (done.reverse ++ bytes) := by
  match bytes with
  | [] => simp [Alphabet.encode, Alphabet.encodeAfter, decodeAfter?]
  | [x] =>
    have last := lastGroup?_one x rfl
    simp only [Alphabet.encode, Alphabet.encodeAfter, Alphabet.padding]
    change (lastGroup? _ _ _ _).map (done.reverse ++ ·) = _
    rw [last, Option.map_some]
  | [x, y] =>
    have last := lastGroup?_two x y rfl
    simp only [Alphabet.encode, Alphabet.encodeAfter, Alphabet.padding]
    change (lastGroup? _ _ _ _).map (done.reverse ++ ·) = _
    rw [last, Option.map_some]
  | [x, y, z] =>
    have last := lastGroup?_three x y z rfl
    rw [encode_group x y z [] rfl]
    change (lastGroup? _ _ _ _).map (done.reverse ++ ·) = _
    rw [last, Option.map_some]
  | x :: y :: z :: w :: rest =>
    have full := fullGroup?_digits x y z rfl
    have tail := decodeAfter?_encode (z :: y :: x :: done) (w :: rest)
    rw [encode_group x y z (w :: rest) rfl]
    -- a group is read as a full one only if digits follow, and they do
    cases more : standard.encode (w :: rest) with
    | nil => exact absurd (encode_eq_nil_iff.mp more) (by simp)
    | cons digit digits =>
      rw [decodeAfter?, full]
      · rw [more] at tail
        simpa using tail
      · simp

theorem decode?_encode (bytes : Bytes) : decode? (standard.encode bytes) = some bytes :=
  decodeAfter?_encode [] bytes

theorem digit_of_value? {c : UInt8} {v : Nat} (read : standard.value? c = some v) :
    c = standard.digit v ∧ v < 64 := by
  have table : ∀ n < 256, ∀ v ∈ standard.value? (UInt8.ofNat n),
      UInt8.ofNat n = standard.digit v ∧ v < 64 := by decide +kernel
  have row := table c.toNat c.toNat_lt
  rw [UInt8.ofNat_toNat] at row
  exact row v read

/-- Only the six low bits are written. -/
theorem digit_congr {m n : Nat} (same : m % 64 = n % 64) : standard.digit m = standard.digit n := by
  rw [← digit_mod, same, digit_mod]

theorem eq_digits_of_fullGroup? {p q r s x y z : UInt8} {n : Nat}
    (group : n = (x.toNat * 256 + y.toNat) * 256 + z.toNat)
    (read : fullGroup? p q r s = some (x, y, z)) :
    p = standard.digit (n / 262144) ∧ q = standard.digit (n / 4096) ∧
      r = standard.digit (n / 64) ∧ s = standard.digit n := by
  simp only [fullGroup?, bind, Option.bind_eq_some_iff, Option.some.injEq, Prod.mk.injEq] at read
  obtain ⟨a, ha, b, hb, c, hc, d, hd, rfl, rfl, rfl⟩ := read
  obtain ⟨rfl, bound₁⟩ := digit_of_value? ha
  obtain ⟨rfl, bound₂⟩ := digit_of_value? hb
  obtain ⟨rfl, bound₃⟩ := digit_of_value? hc
  obtain ⟨rfl, bound₄⟩ := digit_of_value? hd
  simp only [UInt8.toNat_ofNat'] at group
  refine ⟨digit_congr ?_, digit_congr ?_, digit_congr ?_, digit_congr ?_⟩ <;> omega

theorem encode_one (x : UInt8) {n : Nat} (group : n = x.toNat * 16) :
    standard.encode [x] = [standard.digit (n / 64), standard.digit n, pad, pad] := by
  subst group
  rfl

theorem encode_two (x y : UInt8) {n : Nat} (group : n = (x.toNat * 256 + y.toNat) * 4) :
    standard.encode [x, y] =
      [standard.digit (n / 4096), standard.digit (n / 64), standard.digit n, pad] := by
  subst group
  rfl

/-- The bits that padding leaves over are zero, so a padded group is the only one for its octets. -/
theorem eq_encode_of_lastGroup? {p q r s : UInt8} {bytes : Bytes}
    (read : lastGroup? p q r s = some bytes) : [p, q, r, s] = standard.encode bytes := by
  simp only [lastGroup?, bind, Option.bind_eq_some_iff] at read
  obtain ⟨a, ha, b, hb, read⟩ := read
  obtain ⟨rfl, bound₁⟩ := digit_of_value? ha
  obtain ⟨rfl, bound₂⟩ := digit_of_value? hb
  by_cases padded : r = pad
  · simp only [padded, if_true, Option.ite_none_right_eq_some, Option.some.injEq] at read
    obtain ⟨⟨rfl, unused⟩, rfl⟩ := read
    subst padded
    rw [encode_one _ rfl]
    simp only [UInt8.toNat_ofNat', List.cons.injEq, and_true]
    refine ⟨digit_congr ?_, digit_congr ?_⟩ <;> omega
  · simp only [padded, if_false, Option.bind_eq_some_iff] at read
    obtain ⟨c, hc, read⟩ := read
    obtain ⟨rfl, bound₃⟩ := digit_of_value? hc
    by_cases ended : s = pad
    · simp only [ended, if_true, Option.ite_none_right_eq_some, Option.some.injEq] at read
      obtain ⟨unused, rfl⟩ := read
      subst ended
      rw [encode_two _ _ rfl]
      simp only [UInt8.toNat_ofNat', List.cons.injEq, and_true]
      refine ⟨digit_congr ?_, digit_congr ?_, digit_congr ?_⟩ <;> omega
    · simp only [ended, if_false, Option.bind_eq_some_iff, Option.some.injEq] at read
      obtain ⟨d, hd, rfl⟩ := read
      obtain ⟨rfl, bound₄⟩ := digit_of_value? hd
      rw [encode_group _ _ _ [] rfl]
      simp only [UInt8.toNat_ofNat', List.cons.injEq]
      refine ⟨digit_congr ?_, digit_congr ?_, digit_congr ?_, digit_congr ?_, rfl⟩ <;> omega

theorem eq_encode_of_decodeAfter? {done text bytes : Bytes}
    (read : decodeAfter? done text = some bytes) :
    ∃ rest, bytes = done.reverse ++ rest ∧ text = standard.encode rest := by
  fun_induction decodeAfter? done text generalizing bytes with
  | case1 done =>
    cases read
    exact ⟨[], (List.append_nil _).symm, rfl⟩
  | case2 done p q r s =>
    obtain ⟨rest, last, rfl⟩ := Option.map_eq_some_iff.mp read
    exact ⟨rest, rfl, eq_encode_of_lastGroup? last⟩
  | case3 done p q r s text more x y z full ih =>
    obtain ⟨rest, rfl, rfl⟩ := ih read
    obtain ⟨rfl, rfl, rfl, rfl⟩ := eq_digits_of_fullGroup? rfl full
    exact ⟨x :: y :: z :: rest, by simp, (encode_group x y z rest rfl).symm⟩
  | case4 => contradiction
  | case5 => contradiction

/-- Base64 is canonical: a text is read as octets exactly if it is what is written for them. -/
theorem decode?_eq_some_iff {text bytes : Bytes} :
    decode? text = some bytes ↔ text = standard.encode bytes := by
  constructor
  · intro read
    obtain ⟨_, rfl, same⟩ := eq_encode_of_decodeAfter? read
    exact same
  · rintro rfl
    exact decode?_encode bytes

/-- What base64 is written with: visible, and neither a blank nor a comma. -/
def IsSymbol (b : UInt8) : Prop := 43 ≤ b ∧ b ≤ 122 ∧ b ≠ 44

instance (b : UInt8) : Decidable (IsSymbol b) := inferInstanceAs (Decidable (_ ∧ _ ∧ _))

theorem isSymbol_digit (n : Nat) : IsSymbol (standard.digit n) := by
  have table : ∀ n < 64, IsSymbol (standard.digit n) := by decide
  rw [← digit_mod]
  exact table _ (Nat.mod_lt n (by decide))

theorem isSymbol_pad : IsSymbol pad := by decide

theorem isSymbol_of_mem_encode (bytes : Bytes) : ∀ b ∈ standard.encode bytes, IsSymbol b := by
  match bytes with
  | [] => simp [Alphabet.encode, Alphabet.encodeAfter]
  | [x] =>
    simp [Alphabet.encode, Alphabet.encodeAfter, Alphabet.padding, standard, isSymbol_pad]
    exact ⟨isSymbol_digit _, isSymbol_digit _⟩
  | [x, y] =>
    simp [Alphabet.encode, Alphabet.encodeAfter, Alphabet.padding, standard, isSymbol_pad]
    exact ⟨isSymbol_digit _, isSymbol_digit _, isSymbol_digit _⟩
  | x :: y :: z :: rest =>
    have tail := isSymbol_of_mem_encode rest
    rw [encode_group x y z rest rfl]
    simp only [List.forall_mem_cons]
    exact ⟨isSymbol_digit _, isSymbol_digit _, isSymbol_digit _, isSymbol_digit _, tail⟩

end CertifiedAccess.Base64
