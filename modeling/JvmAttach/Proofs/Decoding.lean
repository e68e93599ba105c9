import JvmAttach.Proofs.Encoding
import Mathlib.Algebra.Group.Nat.Defs

/-! Decoding bytes around ASCII. No character reaches across an ASCII byte, so what stands before one
is decoded as if it stood alone, and so is what stands behind it. Nothing else is decoded to ASCII. What has
been encoded is read back. -/
namespace JvmAttach.Text

namespace Decoder

/-- A character under way takes no ASCII byte. -/
def Closed (d : Decoder) : Prop := ∀ p, d.pending = some p → 0x80 ≤ p.low

theorem low_lead {b : UInt8} {p : Partial} (begun : lead b = some p) : 0x80 ≤ p.low := by
  unfold lead at begun
  repeat' split at begun
  all_goals first
    | contradiction
    | (cases begun; simp)

theorem closed_fresh (text : List Char) (b : UInt8) : Closed (fresh text b) := by
  intro p under
  unfold fresh at under
  split at under
  · contradiction
  · split at under
    · rename_i q begun
      cases under
      exact low_lead begun
    · contradiction

theorem closed_step {d : Decoder} (b : UInt8) : Closed (d.step b) := by
  unfold step
  split
  · exact closed_fresh _ b
  · split
    · split
      · intro p under; contradiction
      · intro p under; cases under; exact Nat.le_refl _
    · exact closed_fresh _ b

theorem closed_start : Closed start := by
  intro p under
  cases under

theorem closed_foldl {d : Decoder} (closed : Closed d) (bytes : Bytes) :
    Closed (bytes.foldl step d) := by
  induction bytes generalizing d with
  | nil => exact closed
  | cons b bytes ih => exact ih (closed_step b)

theorem refused_of_ascii {d : Decoder} {p : Partial} (closed : Closed d) (under : d.pending = some p) {b : UInt8}
    (ascii : b < 0x80) : ¬ (p.low ≤ b ∧ b ≤ p.high) := by
  rintro ⟨low, -⟩
  exact absurd (UInt8.lt_of_lt_of_le ascii (closed p under)) (UInt8.not_lt.2 low)

theorem step_ascii {d : Decoder} (closed : Closed d) {b : UInt8} (ascii : b < 0x80) :
    (d.step b).pending = none ∧ (d.step b).finish = d.finish ++ [Char.ofNat b.toNat] := by
  cases under : d.pending with
  | none => simp [step, finish, under, fresh, ascii]
  | some p => simp [step, finish, under, refused_of_ascii closed under ascii, fresh, ascii]

/-- A decoder behind a text that has been decoded before. -/
def after (text : List Char) (d : Decoder) : Decoder := ⟨d.pending, d.text ++ text⟩

theorem fresh_append (text more : List Char) (b : UInt8) : fresh (more ++ text) b = after text (fresh more b) := by
  unfold fresh
  split
  · rfl
  · split <;> rfl

theorem step_after (text : List Char) (d : Decoder) (b : UInt8) : (after text d).step b = after text (d.step b) := by
  cases under : d.pending with
  | none => simp only [step, after, under]; exact fresh_append text d.text b
  | some p =>
    simp only [step, after, under]
    split
    · split <;> rfl
    · exact fresh_append text (replacement :: d.text) b

theorem finish_foldl_after (text : List Char) (d : Decoder) (bytes : Bytes) :
    (bytes.foldl step (after text d)).finish = text.reverse ++ (bytes.foldl step d).finish := by
  induction bytes generalizing d with
  | nil =>
    simp only [List.foldl_nil, finish, after]
    cases d.pending <;> simp
  | cons b bytes ih => rw [List.foldl_cons, step_after, ih, List.foldl_cons]

/-- The least value that a character under way can still have. -/
def least (p : Partial) : Nat := (p.bits * 64 + (p.low.toNat - 0x80)) * 64 ^ (p.owed - 1)

/-- The values that a character under way can still have are below this one. -/
def limit (p : Partial) : Nat := (p.bits * 64 + (p.high.toNat - 0x80) + 1) * 64 ^ (p.owed - 1)

/-- Whatever its next bytes are, a character under way becomes one beyond ASCII. -/
structure Sound (p : Partial) : Prop where
  long : 0x80 ≤ least p
  valid : limit p ≤ 0xD800 ∨ 0xE000 ≤ least p ∧ limit p ≤ 0x110000

theorem sound_lead {b : UInt8} {p : Partial} (begun : lead b = some p) : Sound p := by
  unfold lead at begun
  simp only [UInt8.le_iff_toNat_le, ← UInt8.toNat_inj, UInt8.reduceToNat] at begun
  repeat' split at begun
  all_goals first
    | contradiction
    | (cases begun
       constructor <;> simp only [least, limit, UInt8.reduceToNat, Nat.reduceSub, Nat.reduceAdd, Nat.reducePow,
         Nat.reduceMul] <;> omega)

theorem Sound.narrowed {p q : Partial} (sound : Sound p) (low : least p ≤ least q) (high : limit q ≤ limit p) :
    Sound q where
  long := Nat.le_trans sound.long low
  valid := sound.valid.imp (Nat.le_trans high) fun ⟨least, limit⟩ => ⟨Nat.le_trans least low, Nat.le_trans high limit⟩

variable {p : Partial} {b : UInt8}

theorem toNat_ofNat {n : Nat} (scalar : n.isValidChar) : (Char.ofNat n).toNat = n := by
  rw [Char.ofNat, dif_pos scalar]
  rfl

theorem Sound.completed (sound : Sound p) (within : p.low ≤ b ∧ b ≤ p.high) (last : p.owed ≤ 1) :
    0x80 ≤ (Char.ofNat (p.bits * 64 + (b.toNat - 0x80))).toNat := by
  obtain ⟨long, valid⟩ := sound
  simp only [UInt8.le_iff_toNat_le] at within
  have one : 64 ^ (p.owed - 1) = 1 := by rw [Nat.sub_eq_zero_of_le last, Nat.pow_zero]
  simp only [least, limit, one, Nat.mul_one] at long valid
  have scalar : (p.bits * 64 + (b.toNat - 0x80)).isValidChar := by
    simp only [Nat.isValidChar]
    omega
  rw [toNat_ofNat scalar]
  omega

theorem Sound.continued (sound : Sound p) (within : p.low ≤ b ∧ b ≤ p.high) (more : ¬ p.owed ≤ 1) :
    Sound ⟨p.owed - 1, 0x80, 0xBF, p.bits * 64 + (b.toNat - 0x80)⟩ := by
  simp only [UInt8.le_iff_toNat_le] at within
  obtain ⟨k, owed⟩ : ∃ k, p.owed = k + 2 := ⟨p.owed - 2, by omega⟩
  have power : 64 ^ (k + 1) = 64 * 64 ^ k := Nat.pow_succ'
  refine sound.narrowed ?_ ?_
  · simp only [least, owed, Nat.add_sub_cancel, Nat.reduceSubDiff, power, ← Nat.mul_assoc]
    apply Nat.mul_le_mul_right
    omega
  · simp only [limit, owed, Nat.add_sub_cancel, Nat.reduceSubDiff, power, ← Nat.mul_assoc]
    apply Nat.mul_le_mul_right
    simp only [UInt8.reduceToNat]
    omega

/-- Every character under way is sound. -/
def Steady (d : Decoder) : Prop := ∀ p, d.pending = some p → Sound p

/-- What a byte can add to a text: its own character, and characters beyond ASCII. -/
def Adds (b : UInt8) (c : Char) : Prop := 0x80 ≤ c.toNat ∨ b.toNat = c.toNat

/-- A byte either leaves a character under way or adds to the text. -/
structure Grows (b : UInt8) (text : List Char) (d : Decoder) : Prop where
  steady : Steady d
  grown : ∃ new, d.text = new ++ text ∧ (∀ c ∈ new, Adds b c) ∧ (d.pending = none → new ≠ [])

theorem grows_fresh (text : List Char) (b : UInt8) : Grows b text (fresh text b) := by
  unfold fresh
  split
  · rename_i ascii
    have small : b.toNat < 128 := UInt8.lt_iff_toNat_lt.1 ascii
    have own : (Char.ofNat b.toNat).toNat = b.toNat := toNat_ofNat (.inl (by omega))
    exact ⟨nofun, [_], rfl, by simp [Adds, own], fun _ => List.cons_ne_nil _ _⟩
  · split
    · rename_i q begun
      exact ⟨fun p under => by cases under; exact sound_lead begun, [], rfl, nofun, nofun⟩
    · exact ⟨nofun, [replacement], rfl, by simp [Adds, replacement], fun _ => List.cons_ne_nil _ _⟩

theorem grows_step {d : Decoder} (steady : Steady d) (b : UInt8) : Grows b d.text (d.step b) := by
  unfold step
  split
  · exact grows_fresh d.text b
  · rename_i p under
    have sound : Sound p := steady p under
    split
    · rename_i within
      dsimp only
      split
      · rename_i last
        have long := sound.completed within last
        exact ⟨nofun, [_], rfl, by simpa [Adds] using .inl long, fun _ => List.cons_ne_nil _ _⟩
      · rename_i more
        exact ⟨fun q next => by cases next; exact sound.continued within more, [], rfl, nofun, nofun⟩
    · -- the byte is read anew behind a replacement
      obtain ⟨still, new, whole, adds, _⟩ := grows_fresh (replacement :: d.text) b
      refine ⟨still, new ++ [replacement], by simp [whole], ?_, fun _ => by simp⟩
      intro c mem
      rcases List.mem_append.1 mem with inside | last
      · exact adds c inside
      · cases List.mem_singleton.1 last
        exact .inl (by decide)

theorem steady_start : Steady start := nofun

theorem steady_foldl {d : Decoder} (steady : Steady d) (bytes : Bytes) : Steady (bytes.foldl step d) := by
  induction bytes generalizing d with
  | nil => exact steady
  | cons b bytes ih => exact ih (grows_step steady b).steady

theorem mem_finish {d : Decoder} {c : Char} (mem : c ∈ d.finish) : c ∈ d.text ∨ 0x80 ≤ c.toNat := by
  unfold finish at mem
  split at mem
  · exact .inl (List.mem_reverse.1 mem)
  · rcases List.mem_cons.1 (List.mem_reverse.1 mem) with rfl | inside
    · exact .inr (by decide)
    · exact .inl inside

theorem mem_finish_foldl {d : Decoder} (steady : Steady d) {bytes : Bytes} {c : Char}
    (mem : c ∈ (bytes.foldl step d).finish) : c ∈ d.text ∨ 0x80 ≤ c.toNat ∨ ∃ b ∈ bytes, Adds b c := by
  induction bytes generalizing d with
  | nil => exact (mem_finish mem).imp_right .inl
  | cons b bytes ih =>
    obtain ⟨still, new, whole, adds, -⟩ := grows_step steady b
    rcases ih still mem with before | long | ⟨b', inside, added⟩
    · rw [whole, List.mem_append] at before
      rcases before with added | before
      · exact .inr (.inr ⟨b, List.mem_cons_self, adds c added⟩)
      · exact .inl before
    · exact .inr (.inl long)
    · exact .inr (.inr ⟨b', List.mem_cons_of_mem _ inside, added⟩)

/-- The byte of a value that has a number of others behind it. -/
def trailing (n k : Nat) : UInt8 := UInt8.ofNat (n / 64 ^ k % 64 + 0x80)

/-- The bytes of a value behind its lead byte. -/
def trail (n : Nat) : Nat → Bytes
  | 0 => []
  | k + 1 => trailing n k :: trail n k

theorem toNat_trailing (n k : Nat) : (trailing n k).toNat = n / 64 ^ k % 64 + 0x80 := by
  rw [trailing, UInt8.toNat_ofNat', Nat.mod_eq_of_lt]
  omega

/-- A character under way that can become a value, when as many bytes are still owed. -/
structure Becomes (p : Partial) (n k : Nat) : Prop where
  owed : p.owed = k
  bits : p.bits = n / 64 ^ k
  above : least p ≤ n
  under : n < limit p
  reach : 0x80 ≤ p.high.toNat

theorem Becomes.takes {p : Partial} {n k : Nat} (becomes : Becomes p n (k + 1)) :
    (p.low ≤ trailing n k ∧ trailing n k ≤ p.high) ∧ p.bits * 64 + ((trailing n k).toNat - 0x80) = n / 64 ^ k := by
  obtain ⟨owed, bits, above, under, reach⟩ := becomes
  have positive : 0 < 64 ^ k := Nat.pow_pos (by decide)
  rw [Nat.pow_succ, ← Nat.div_div_eq_div_mul] at bits
  rw [least, owed, Nat.add_sub_cancel, ← Nat.le_div_iff_mul_le positive] at above
  rw [limit, owed, Nat.add_sub_cancel, ← Nat.div_lt_iff_lt_mul positive] at under
  simp only [UInt8.le_iff_toNat_le]
  rw [toNat_trailing]
  omega

theorem becomes_open (n k : Nat) : Becomes ⟨k + 1, 0x80, 0xBF, n / 64 ^ (k + 1)⟩ n (k + 1) where
  owed := rfl
  bits := rfl
  above := by
    simp only [least, UInt8.reduceToNat, Nat.sub_self, Nat.add_zero, Nat.add_sub_cancel]
    rw [Nat.mul_assoc, ← Nat.pow_succ']
    exact Nat.div_mul_le_self n _
  under := by
    simp only [limit, UInt8.reduceToNat, Nat.add_sub_cancel, Nat.reduceSub, Nat.add_assoc, Nat.reduceAdd]
    rw [← Nat.succ_mul, Nat.mul_assoc, ← Nat.pow_succ', Nat.succ_mul]
    exact Nat.lt_div_mul_add (Nat.pow_pos (by decide))
  reach := by simp only [UInt8.reduceToNat, Nat.reduceLeDiff]

theorem foldl_trail {p : Partial} {n k : Nat} (text : List Char) (becomes : Becomes p n (k + 1)) :
    (trail n (k + 1)).foldl step ⟨some p, text⟩ = ⟨none, Char.ofNat n :: text⟩ := by
  induction k generalizing p with
  | zero =>
    obtain ⟨within, value⟩ := becomes.takes
    rw [Nat.pow_zero, Nat.div_one] at value
    simp only [trail, List.foldl_cons, List.foldl_nil, step, within, becomes.owed, and_self, ↓reduceIte, value,
      Nat.zero_add, Nat.le_refl]
  | succ k ih =>
    obtain ⟨within, value⟩ := becomes.takes
    have more : ¬ k + 1 + 1 ≤ 1 := by omega
    have stepped : step ⟨some p, text⟩ (trailing n (k + 1)) = ⟨some ⟨k + 1, 0x80, 0xBF, n / 64 ^ (k + 1)⟩, text⟩ := by
      simp only [step, within, and_self, ↓reduceIte, value, becomes.owed, if_neg more, Nat.add_sub_cancel]
    rw [trail, List.foldl_cons, stepped]
    exact ih (becomes_open n k)

theorem exists_becomes {b : UInt8} {n k : Nat}
    (leads : k = 0 ∧ b.toNat = n / 64 + 0xC0 ∧ 0x80 ≤ n ∧ n < 0x800 ∨
      k = 1 ∧ b.toNat = n / 4096 + 0xE0 ∧ 0x800 ≤ n ∧ (n < 0xD800 ∨ 0xDFFF < n ∧ n < 0x10000) ∨
      k = 2 ∧ b.toNat = n / 262144 + 0xF0 ∧ 0x10000 ≤ n ∧ n < 0x110000) :
    ∃ p, lead b = some p ∧ Becomes p n (k + 1) := by
  simp only [lead, UInt8.le_iff_toNat_le, ← UInt8.toNat_inj, UInt8.reduceToNat]
  rcases leads with ⟨rfl, code, low, high⟩ | ⟨rfl, code, low, high⟩ | ⟨rfl, code, low, high⟩ <;> rw [code]
  all_goals repeat' split
  all_goals first
    | omega
    | (refine ⟨_, rfl, ?_⟩
       constructor <;>
        simp only [least, limit, UInt8.reduceToNat, Nat.reduceSub, Nat.reduceAdd, Nat.reducePow, Nat.reduceMul] <;> omega)

theorem foldl_encodeChar (c : Char) (text : List Char) :
    (String.utf8EncodeChar c).foldl step ⟨none, text⟩ = ⟨none, c :: text⟩ := by
  obtain ⟨n, code⟩ : ∃ n, n = c.toNat := ⟨_, rfl⟩
  have same : c.val.toNat = n := code.symm
  have valid : n < 0xD800 ∨ 0xDFFF < n ∧ n < 0x110000 := code ▸ c.valid
  have back : Char.ofNat n = c := code ▸ Char.ofNat_toNat c
  have long {b : UInt8} {p : Partial} {k : Nat} (beyond : 0x80 ≤ b.toNat) (begun : lead b = some p)
      (becomes : Becomes p n (k + 1)) : (b :: trail n (k + 1)).foldl step ⟨none, text⟩ = ⟨none, c :: text⟩ := by
    have first : step ⟨none, text⟩ b = ⟨some p, text⟩ := by
      have other : ¬ b < 0x80 := UInt8.not_lt.2 (UInt8.le_iff_toNat_le.2 beyond)
      simp only [step, fresh, other, ↓reduceIte, begun]
    rw [List.foldl_cons, first, foldl_trail text becomes, back]
  have byte {m : Nat} (small : m < 256) : (UInt8.ofNat m).toNat = m := by
    rw [UInt8.toNat_ofNat', Nat.mod_eq_of_lt small]
  simp only [String.utf8EncodeChar, same]
  split
  · have ascii : UInt8.ofNat n < 0x80 := by
      rw [UInt8.lt_iff_toNat_lt, byte (by omega)]
      exact Nat.lt_succ_of_le ‹_›
    simp only [List.foldl_cons, List.foldl_nil, step, fresh, ascii, ↓reduceIte, byte (show n < 256 by omega), back]
  · split
    · have code : (UInt8.ofNat (n / 64 % 32 + 192)).toNat = n / 64 + 0xC0 := by rw [byte] <;> omega
      obtain ⟨p, begun, becomes⟩ := exists_becomes (.inl ⟨rfl, code, by omega, by omega⟩)
      have whole := long (by omega) begun becomes
      simpa only [trail, trailing, Nat.pow_zero, Nat.div_one] using whole
    · split
      · have code : (UInt8.ofNat (n / 4096 % 16 + 224)).toNat = n / 4096 + 0xE0 := by rw [byte] <;> omega
        obtain ⟨p, begun, becomes⟩ := exists_becomes (.inr (.inl ⟨rfl, code, by omega, by omega⟩))
        have whole := long (by omega) begun becomes
        simpa only [trail, trailing, Nat.pow_zero, Nat.div_one, Nat.pow_one] using whole
      · have code : (UInt8.ofNat (n / 262144 % 8 + 240)).toNat = n / 262144 + 0xF0 := by rw [byte] <;> omega
        obtain ⟨p, begun, becomes⟩ := exists_becomes (.inr (.inr ⟨rfl, code, by omega, by omega⟩))
        have whole := long (by omega) begun becomes
        simpa only [trail, trailing, Nat.pow_zero, Nat.div_one, Nat.pow_one, Nat.reducePow] using whole

end Decoder

open Decoder

theorem foldl_encode (text more : List Char) :
    (encode text).foldl step ⟨none, more⟩ = ⟨none, text.reverse ++ more⟩ := by
  induction text generalizing more with
  | nil => rfl
  | cons c text ih =>
    rw [encode, List.flatMap_cons, List.foldl_append, foldl_encodeChar]
    rw [encode] at ih
    rw [ih, List.reverse_cons, List.append_assoc, List.singleton_append]

theorem decode_encode (text : List Char) : decode (encode text) = text := by
  rw [decode, start, foldl_encode, finish, List.append_nil, List.reverse_reverse]

theorem decode?_encode (text : List Char) : decode? (encode text) = some text := by
  rw [decode?, isWellFormed, decode_encode, beq_self_eq_true, if_pos rfl]

theorem decode?_eq_some_iff {bytes : Bytes} {text : List Char} : decode? bytes = some text ↔ bytes = encode text := by
  constructor
  · intro read
    obtain ⟨formed, same⟩ := Option.ite_none_right_eq_some.1 read
    exact (beq_iff_eq.1 formed).symm.trans (congrArg encode (Option.some.inj same))
  · rintro rfl
    exact decode?_encode text

/-- An ASCII byte stands for its character and cuts what is decoded in two. -/
theorem decode_append_cons (front : Bytes) {b : UInt8} (ascii : b < 0x80) (back : Bytes) :
    decode (front ++ b :: back) = decode front ++ Char.ofNat b.toNat :: decode back := by
  have closed : Closed (front.foldl step start) := closed_foldl closed_start front
  obtain ⟨ended, one⟩ := step_ascii closed ascii
  generalize between : (front.foldl step start).step b = d at one ended
  have resumed : d = after d.text start := by
    cases d
    simp only [after, start, List.nil_append, ← ended]
  have said : d.text.reverse = d.finish := by simp only [finish, ended]
  have whole : decode (front ++ b :: back) = d.text.reverse ++ decode back := by
    rw [decode, List.foldl_append, List.foldl_cons, between, resumed, finish_foldl_after]
    rfl
  rw [whole, said, one, List.append_assoc]
  rfl

theorem decode_append_ascii (bytes tail : Bytes) (ascii : ∀ b ∈ tail, b < 0x80) :
    decode (bytes ++ tail) = decode bytes ++ tail.map fun b => Char.ofNat b.toNat := by
  induction tail generalizing bytes with
  | nil => simp
  | cons b tail ih =>
    have rest : decode tail = tail.map fun b => Char.ofNat b.toNat :=
      ih [] fun c mem => ascii c (List.mem_cons_of_mem _ mem)
    rw [decode_append_cons bytes (ascii b List.mem_cons_self), rest, List.map_cons]

theorem byte_of_mem_decode {bytes : Bytes} {c : Char} (mem : c ∈ decode bytes) (ascii : c.toNat < 0x80) :
    ∃ b ∈ bytes, b.toNat = c.toNat := by
  rcases mem_finish_foldl steady_start mem with before | long | ⟨b, inside, long | same⟩
  · cases before
  · omega
  · omega
  · exact ⟨b, inside, same⟩

theorem byte_of_getLast?_decode {bytes : Bytes} {b : UInt8} {c : Char}
    (ends : (decode (bytes ++ [b])).getLast? = some c) (ascii : c.toNat < 0x80) : b.toNat = c.toNat := by
  obtain ⟨-, new, whole, adds, some⟩ := grows_step (steady_foldl steady_start bytes) b
  rw [decode, List.foldl_append, List.foldl_cons, List.foldl_nil] at ends
  generalize (bytes.foldl step start).step b = d at ends whole some
  unfold finish at ends
  split at ends
  · rename_i ended
    obtain ⟨last, others, rfl⟩ := List.exists_cons_of_ne_nil (some ended)
    rw [whole, List.getLast?_reverse, List.cons_append, List.head?_cons, Option.some.injEq] at ends
    subst ends
    rcases adds last List.mem_cons_self with long | same
    · omega
    · exact same
  · rw [List.getLast?_reverse, List.head?_cons, Option.some.injEq] at ends
    subst ends
    exact absurd ascii (by decide)

theorem decode_cut {text : List Char} (ascii : ∀ c ∈ text, c.toNat < 0x80) {line : Bytes}
    (cut : line <+: encode text) : decode line <+: text := by
  rw [encode_ascii ascii, List.prefix_map_iff] at cut
  obtain ⟨front, short, rfl⟩ := cut
  rw [← encode_ascii fun c mem => ascii c (short.subset mem), decode_encode]
  exact short

end JvmAttach.Text
