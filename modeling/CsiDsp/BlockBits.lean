import CsiDsp.Xvmem

set_option autoImplicit false

namespace CsiDsp

open CInt BitArray

-- From pos on, count bits are clear, and the bit behind them is set.
structure FirstSet (words : Nat → BitVec 32) (numBits pos count : Nat) : Prop where
  clear : ∀ ahead < count, pos + ahead < numBits → bit words (pos + ahead) = false
  set : pos + count < numBits → bit words (pos + count) = true

theorem bit_of_word (words : Nat → BitVec 32) (word index : Nat) (inside : index < 32) :
    bit words (32 * word + index) = (words word).getLsbD index := by
  have place : (32 * word + index) / 32 = word := by omega
  have off : (32 * word + index) % 32 = index := by omega
  rw [bit, place, off]

theorem find_msbit_lowest (word : BitVec 32) (some_ : word ≠ 0) :
    word.getLsbD (zerosInWord (word &&& -word) 0) = true ∧ ∀ lower < zerosInWord (word &&& -word) 0, word.getLsbD lower = false := by
  have alone : word &&& -word ≠ 0 := fun zero => some_ ((lowest_zero word).mp zero)
  have positive : (word &&& -word).toNat ≠ 0 := fun zero => alone (BitVec.eq_of_toNat_eq (by simpa using zero))
  rw [zerosInWord, if_neg alone, xvmemFindMsbit, if_neg positive]
  exact lowest_index word some_

section LeadingZeros

variable (bitvec : Nat → BitVec 32) (zeroCount : BitVec 32) (numBits pos : Nat)

-- What the loop knows when it has looked at a word: the bit it stands at, or that all bits up to the next word are clear.
structure WordSeen (ls1b : BitVec 32) (wordIdx lzc : Nat) : Prop where
  found : ls1b ≠ 0 → FirstSet (fun word => bitvec word ^^^ zeroCount) numBits pos lzc
  clear : ls1b = 0 → ∀ place, pos ≤ place → place < 32 * (wordIdx + 1) → place < numBits →
    bit (fun word => bitvec word ^^^ zeroCount) place = false
  reached : ls1b = 0 → pos + lzc = 32 * (wordIdx + 1) ∨ numBits ≤ 32 * (wordIdx + 1) ∧ numBits ≤ pos + lzc

theorem bits_used_full (left : Nat) (small : left < 2147483648) (full : 32 ≤ left) : bitsUsedInWord left = 32 := by
  have whole : ((left : Int) - 32) = ((left - 32 : Nat) : Int) := by omega
  rw [bitsUsedInWord, whole, i32_fits _ (by omega), if_neg (by omega)]

theorem bits_used_rest (left : Nat) (rest : left < 32) : bitsUsedInWord left = left := by
  have negative : i32 ((left : Int) - 32) < 0 := by
    rw [i32, wrap_s_fits 32 _ (by simp only [Nat.reducePow]; omega) (by simp only [Nat.reducePow]; omega)]
    omega
  rw [bitsUsedInWord, if_pos negative]

-- A word that is not the first one.
theorem next_word_seen (wordIdx lzc left : Nat) (small : numBits < 2147483648) (more : 32 * (wordIdx + 1) < numBits)
    (from_ : pos ≤ 32 * (wordIdx + 1)) (rest : left < 32 → numBits ≤ 32 * (wordIdx + 1) + left) (left_ : left < 2147483648)
    (seen : WordSeen bitvec zeroCount numBits pos 0 wordIdx lzc) :
    WordSeen bitvec zeroCount numBits pos ((bitvec (wordIdx + 1) ^^^ zeroCount) &&& -(bitvec (wordIdx + 1) ^^^ zeroCount)) (wordIdx + 1)
      (u32 (lzc + zerosInWord ((bitvec (wordIdx + 1) ^^^ zeroCount) &&& -(bitvec (wordIdx + 1) ^^^ zeroCount)) (bitsUsedInWord left))) := by
  have here : pos + lzc = 32 * (wordIdx + 1) := (seen.reached rfl).resolve_right (by omega)
  have before := seen.clear rfl
  have bits (index : Nat) (inside : index < 32) := bit_of_word (fun word => bitvec word ^^^ zeroCount) (wordIdx + 1) index inside
  generalize word_ : bitvec (wordIdx + 1) ^^^ zeroCount = word at bits ⊢
  by_cases empty : word = 0
  · subst empty
    have zeros : zerosInWord ((0 : BitVec 32) &&& -0) (bitsUsedInWord left) = bitsUsedInWord left := by simp [zerosInWord]
    rw [zeros]
    have used : bitsUsedInWord left = 32 ∨ bitsUsedInWord left = left ∧ left < 32 := by
      rcases Nat.lt_or_ge left 32 with few | many
      · exact .inr ⟨bits_used_rest left few, few⟩
      · exact .inl (bits_used_full left left_ many)
    have count : u32 ((lzc : Int) + (bitsUsedInWord left : Nat)) = lzc + bitsUsedInWord left :=
      u32_fits (lzc + bitsUsedInWord left) (by omega)
    rw [count]
    refine ⟨fun some_ => absurd (by simp) some_, fun _ place low high inside => ?_, fun _ => ?_⟩
    · rcases Nat.lt_or_ge place (32 * (wordIdx + 1)) with earlier | later
      · exact before place low earlier inside
      · obtain ⟨index, rfl⟩ := Nat.exists_eq_add_of_le later
        rw [bits index (by omega)]
        exact BitVec.getLsbD_zero
    · omega
  · obtain ⟨set, lower⟩ := find_msbit_lowest word empty
    have alone : word &&& -word ≠ 0 := fun zero => empty ((lowest_zero word).mp zero)
    have zeros : zerosInWord (word &&& -word) (bitsUsedInWord left) = zerosInWord (word &&& -word) 0 := by
      rw [zerosInWord, if_neg alone, zerosInWord, if_neg alone]
    rw [zeros]
    generalize zerosInWord (word &&& -word) 0 = index at set lower ⊢
    have inside : index < 32 := BitVec.lt_of_getLsbD set
    have count : u32 ((lzc : Int) + (index : Nat)) = lzc + index := u32_fits (lzc + index) (by omega)
    rw [count]
    refine ⟨fun _ => ⟨fun ahead below valid => ?_, fun _ => ?_⟩, fun none_ => absurd none_ alone, fun none_ => absurd none_ alone⟩
    · rcases Nat.lt_or_ge (pos + ahead) (32 * (wordIdx + 1)) with earlier | later
      · exact before _ (Nat.le_add_right _ _) earlier valid
      · obtain ⟨other, same⟩ := Nat.exists_eq_add_of_le later
        rw [same, bits other (by omega)]
        exact lower other (by omega)
    · rw [← Nat.add_assoc, here, bits index inside]
      exact set

theorem leading_zero_words_spec (numRemWords : Nat) (ls1b : BitVec 32) (left wordIdx lzc : Nat) (small : numBits < 2147483648)
    (last : numBits ≤ 32 * (wordIdx + 1 + numRemWords)) (exact_ : 0 < numRemWords → 32 * (wordIdx + numRemWords) < numBits)
    (from_ : pos ≤ 32 * (wordIdx + 1)) (left_ : left ≤ numBits) (rest : numBits ≤ 32 * wordIdx + left)
    (seen : WordSeen bitvec zeroCount numBits pos ls1b wordIdx lzc) :
    FirstSet (fun word => bitvec word ^^^ zeroCount) numBits pos (leadingZeroWords bitvec zeroCount numRemWords ls1b left wordIdx lzc) := by
  induction numRemWords generalizing ls1b left wordIdx lzc with
  | zero =>
      rw [leadingZeroWords]
      by_cases empty : ls1b = 0
      · have reached := seen.reached empty
        have clear := seen.clear empty
        exact ⟨fun ahead _ valid => clear _ (Nat.le_add_right _ _) (by omega) valid, fun valid => absurd valid (by omega)⟩
      · exact seen.found empty
  | succ numRemWords ih =>
      have more := exact_ (Nat.succ_pos numRemWords)
      rw [leadingZeroWords]
      by_cases empty : ls1b = 0
      · subst empty
        rw [if_neg (fun some_ => some_ rfl)]
        have fewer : u32 ((left : Int) - 32) = left - 32 := by
          have whole : ((left : Int) - 32) = ((left - 32 : Nat) : Int) := by omega
          rw [whole, u32_fits _ (by omega)]
        simp only [fewer]
        refine ih _ (left - 32) (wordIdx + 1) _ (by omega) (fun some_ => by omega) (by omega) (by omega) (by omega) ?_
        exact next_word_seen bitvec zeroCount numBits pos wordIdx lzc (left - 32) small (by omega) from_ (fun few => by omega) (by omega) seen
      · rw [if_pos empty]
        exact seen.found empty

theorem first_word_seen (small : numBits < 2147483648) (inside : pos < numBits) :
    WordSeen bitvec zeroCount numBits pos
      (((bitvec (pos / 32) ^^^ zeroCount) >>> (pos % 32)) &&& -((bitvec (pos / 32) ^^^ zeroCount) >>> (pos % 32))) (pos / 32)
      (zerosInWord (((bitvec (pos / 32) ^^^ zeroCount) >>> (pos % 32)) &&& -((bitvec (pos / 32) ^^^ zeroCount) >>> (pos % 32)))
        (u32 (bitsUsedInWord numBits - (pos % 32 : Nat)))) := by
  have bits (index : Nat) (valid : index < 32) := bit_of_word (fun word => bitvec word ^^^ zeroCount) (pos / 32) index valid
  have shifted (index : Nat) : ((bitvec (pos / 32) ^^^ zeroCount) >>> (pos % 32)).getLsbD index =
      (bitvec (pos / 32) ^^^ zeroCount).getLsbD (pos % 32 + index) := BitVec.getLsbD_ushiftRight _ _ _
  have place : 32 * (pos / 32) + pos % 32 = pos := Nat.div_add_mod pos 32
  have off : pos % 32 < 32 := Nat.mod_lt pos (by omega)
  generalize bitvec (pos / 32) ^^^ zeroCount = word at bits shifted ⊢
  by_cases empty : word >>> (pos % 32) = 0
  · have zeros : zerosInWord ((word >>> (pos % 32)) &&& -(word >>> (pos % 32))) (u32 (bitsUsedInWord numBits - (pos % 32 : Nat))) =
        u32 (bitsUsedInWord numBits - (pos % 32 : Nat)) := by
      rw [empty]
      simp [zerosInWord]
    rw [zeros]
    refine ⟨fun some_ => absurd ((lowest_zero _).mpr empty) some_, fun _ other low high valid => ?_, fun _ => ?_⟩
    · obtain ⟨ahead, rfl⟩ := Nat.exists_eq_add_of_le low
      have here : pos + ahead = 32 * (pos / 32) + (pos % 32 + ahead) := by omega
      rw [here, bits _ (by omega), ← shifted ahead, empty]
      exact BitVec.getLsbD_zero
    · have used : bitsUsedInWord numBits = 32 ∨ bitsUsedInWord numBits = numBits ∧ numBits < 32 := by
        rcases Nat.lt_or_ge numBits 32 with few | many
        · exact .inr ⟨bits_used_rest numBits few, few⟩
        · exact .inl (bits_used_full numBits small many)
      have rest : u32 (bitsUsedInWord numBits - (pos % 32 : Nat)) = bitsUsedInWord numBits - pos % 32 := by
        have whole : ((bitsUsedInWord numBits : Int) - (pos % 32 : Nat)) = ((bitsUsedInWord numBits - pos % 32 : Nat) : Int) := by omega
        rw [whole, u32_fits _ (by omega)]
      rw [rest]
      omega
  · obtain ⟨set, lower⟩ := find_msbit_lowest _ empty
    have alone : (word >>> (pos % 32)) &&& -(word >>> (pos % 32)) ≠ 0 := fun zero => empty ((lowest_zero _).mp zero)
    have zeros (rest : Nat) : zerosInWord ((word >>> (pos % 32)) &&& -(word >>> (pos % 32))) rest =
        zerosInWord ((word >>> (pos % 32)) &&& -(word >>> (pos % 32))) 0 := by
      rw [zerosInWord, if_neg alone, zerosInWord, if_neg alone]
    rw [zeros]
    generalize zerosInWord ((word >>> (pos % 32)) &&& -(word >>> (pos % 32))) 0 = index at set lower ⊢
    rw [shifted] at set
    have valid : pos % 32 + index < 32 := BitVec.lt_of_getLsbD set
    have here (ahead : Nat) : pos + ahead = 32 * (pos / 32) + (pos % 32 + ahead) := by omega
    refine ⟨fun _ => ⟨fun ahead below _ => ?_, fun _ => ?_⟩, fun none_ => absurd none_ alone, fun none_ => absurd none_ alone⟩
    · rw [here, bits _ (by omega), ← shifted]
      exact lower ahead below
    · rw [here, bits _ valid]
      exact set

-- The count stops at the first bit that is set, if there is one.
theorem leading_zero_count_spec (small : numBits < 2147483648) (inside : pos < numBits) :
    FirstSet (fun word => bitvec word ^^^ zeroCount) numBits pos (leadingZeroCount bitvec numBits pos (bitvec (pos / 32)) zeroCount) := by
  have words : u32 (u32 ((numBits : Int) + 31) / 32 - (pos / 32 + 1 : Nat)) = (numBits + 31) / 32 - (pos / 32 + 1) := by
    have sum : u32 ((numBits : Int) + 31) = numBits + 31 := u32_fits (numBits + 31) (by omega)
    rw [sum]
    have whole : ((((numBits + 31 : Nat) : Int) / 32) - ((pos / 32 + 1 : Nat) : Int)) = (((numBits + 31) / 32 - (pos / 32 + 1) : Nat) : Int) := by
      omega
    rw [whole, u32_fits _ (by omega)]
  rw [leadingZeroCount]
  simp only [words]
  exact leading_zero_words_spec bitvec zeroCount numBits pos _ _ _ _ _ small (by omega) (fun _ => by omega) (by omega) (by omega)
    (by omega) (first_word_seen bitvec zeroCount numBits pos small inside)

end LeadingZeros

theorem decide_either (first second : Prop) [Decidable first] [Decidable second] (apart : ¬ (first ∧ second)) :
    (decide first ^^ decide second) = decide (first ∨ second) := by
  by_cases one : first
  · have other : ¬ second := fun two => apart ⟨one, two⟩
    simp [one, other]
  · simp [one]

section Toggle

variable (bitvec : Nat → BitVec 32)

theorem toggle_mask_bit (nbits index : Nat) (few : nbits ≤ 32) : (toggleMask nbits).getLsbD index = decide (index < nbits) := by
  have value : ∀ count ≤ 32, (toggleMask count).toNat = 2 ^ count - 1 := by decide
  rw [BitVec.getLsbD, value nbits few, Nat.testBit_two_pow_sub_one]

-- A word with a mask put over it, and every other word as it was.
theorem bit_of_masked (word place : Nat) (mask : BitVec 32) : bit (Function.update bitvec word (bitvec word ^^^ mask)) place =
    (bit bitvec place ^^ (decide (place / 32 = word) && mask.getLsbD (place % 32))) := by
  rw [bit]
  by_cases here : place / 32 = word
  · subst here
    rw [Function.update_self, BitVec.getLsbD_xor]
    simp [bit]
  · rw [Function.update_of_ne here]
    simp [here, bit]

theorem toggle_words_spec (turns wordIdx numBits : Nat) (enough : numBits ≤ turns) (small : numBits < 2147483648) (place : Nat) :
    bit (toggleWords turns bitvec wordIdx numBits) place =
      (bit bitvec place ^^ decide (32 * wordIdx ≤ place ∧ place < 32 * wordIdx + numBits)) := by
  induction turns generalizing bitvec wordIdx numBits with
  | zero =>
      have none_ : ¬ (32 * wordIdx ≤ place ∧ place < 32 * wordIdx + numBits) := by omega
      rw [toggleWords, decide_eq_false none_, Bool.xor_false]
  | succ turns ih =>
      rw [toggleWords]
      by_cases done : numBits = 0
      · have none_ : ¬ (32 * wordIdx ≤ place ∧ place < 32 * wordIdx + numBits) := by omega
        rw [if_pos done, decide_eq_false none_, Bool.xor_false]
      · rw [if_neg done]
        obtain ⟨nbits, taken, same⟩ : ∃ nbits, (if i32 ((numBits : Int) - 32) < 0 then numBits else 32) = nbits ∧ nbits = min numBits 32 := by
          refine ⟨_, rfl, ?_⟩
          rcases Nat.lt_or_ge numBits 32 with few | many
          · exact (bits_used_rest numBits few).trans (by omega)
          · exact (bits_used_full numBits small many).trans (by omega)
        simp only [taken]
        rw [ih _ (wordIdx + 1) (numBits - nbits) (by omega) (by omega), bit_of_masked, toggle_mask_bit nbits _ (by omega),
          Bool.xor_assoc]
        congr 1
        rw [← Bool.decide_and, decide_either _ _ (by omega), decide_eq_decide]
        omega

-- The bits from pos on are flipped, as many as are asked for.
theorem toggle_bitvec_spec (pos numBits : Nat) (small : numBits < 2147483648) (place : Nat) :
    bit (xvmemToggleBitvec bitvec pos numBits) place = (bit bitvec place ^^ decide (pos ≤ place ∧ place < pos + numBits)) := by
  have off : pos % 32 < 32 := Nat.mod_lt pos (by omega)
  obtain ⟨nbits, taken, same⟩ : ∃ nbits, (if i32 ((numBits : Int) - (32 - pos % 32 : Nat)) < 0 then numBits else 32 - pos % 32) = nbits ∧
      nbits = min numBits (32 - pos % 32) := by
    refine ⟨_, rfl, ?_⟩
    have value : i32 ((numBits : Int) - (32 - pos % 32 : Nat)) = (numBits : Int) - (32 - pos % 32 : Nat) :=
      wrap_s_fits 32 _ (by simp only [Nat.reducePow]; omega) (by simp only [Nat.reducePow]; omega)
    rw [value]
    split <;> omega
  have masked : (toggleMask nbits <<< (pos % 32)).getLsbD (place % 32) = decide (pos % 32 ≤ place % 32 ∧ place % 32 < pos % 32 + nbits) := by
    rw [BitVec.getLsbD_shiftLeft, toggle_mask_bit nbits _ (by omega), ← decide_not, ← Bool.decide_and, ← Bool.decide_and, decide_eq_decide]
    omega
  rw [xvmemToggleBitvec]
  simp only [taken]
  rw [toggle_words_spec _ numBits (pos / 32 + 1) (numBits - nbits) (by omega) (by omega), bit_of_masked, masked, Bool.xor_assoc]
  congr 1
  rw [← Bool.decide_and, decide_either _ _ (by omega), decide_eq_decide]
  omega

end Toggle

end CsiDsp
