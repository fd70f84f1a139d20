import Agintor.Core.Identity
import Mathlib.Tactic.NormNum

/-!
# Injectivity of the canonical encoding

Two values have one canonical encoding exactly when they are equal up to the order in which
mapping entries and set items are listed, and no encoding begins another one.

An encoding is one frame, so the encodings of all values are self-delimiting words. A
container's payload is a count and that many words; it is cut up again in one way, and the
argument recurses into the items.
-/

namespace Agintor.Core

open Lib

/-! ## Equality up to order -/

/-- The least congruence on values that forgets the order of mapping entries and of set
items. -/
inductive Same : Value → Value → Prop
  | refl (v : Value) : Same v v
  | symm {v w : Value} : Same v w → Same w v
  | trans {u v w : Value} : Same u v → Same v w → Same u w
  | enumValue (typeName : String) {v w : Value} :
      Same v w → Same (.enum typeName v) (.enum typeName w)
  | mappingEntry (pre post : List (Value × Value)) {k k' v v' : Value} : Same k k' → Same v v' →
      Same (.mapping (pre ++ (k, v) :: post)) (.mapping (pre ++ (k', v') :: post))
  | listItem (pre post : List Value) {v w : Value} :
      Same v w → Same (.list (pre ++ v :: post)) (.list (pre ++ w :: post))
  | tupleItem (pre post : List Value) {v w : Value} :
      Same v w → Same (.tuple (pre ++ v :: post)) (.tuple (pre ++ w :: post))
  | setItem (pre post : List Value) {v w : Value} :
      Same v w → Same (.set (pre ++ v :: post)) (.set (pre ++ w :: post))
  | frozensetItem (pre post : List Value) {v w : Value} :
      Same v w → Same (.frozenset (pre ++ v :: post)) (.frozenset (pre ++ w :: post))
  | mappingOrder {es es' : List (Value × Value)} :
      es.Perm es' → Same (.mapping es) (.mapping es')
  | setOrder {vs ws : List Value} : vs.Perm ws → Same (.set vs) (.set ws)
  | frozensetOrder {vs ws : List Value} : vs.Perm ws → Same (.frozenset vs) (.frozenset ws)

/-- Containers with related items are related, when replacing one item keeps them so. -/
lemma Same.of_forall₂ {α : Type} {R : α → α → Prop} {C : List α → Value}
    (hC : ∀ pre post a b, R a b → Same (C (pre ++ a :: post)) (C (pre ++ b :: post)))
    {as bs : List α} (h : List.Forall₂ R as bs) : Same (C as) (C bs) := by
  -- the items are replaced from left to right, behind a growing prefix
  have hall : ∀ pre, Same (C (pre ++ as)) (C (pre ++ bs)) := by
    induction h with
    | nil =>
      intro pre
      exact .refl _
    | @cons a b as bs hab _ ih =>
      intro pre
      have hhead := hC pre as a b hab
      have htail := ih (pre ++ [b])
      rw [List.append_assoc, List.append_assoc] at htail
      exact hhead.trans htail
  exact hall []

/-! ## Text forms are injective -/

lemma toDigits_injective : Function.Injective (Nat.toDigits 10) := by
  intro m n h
  rw [← Nat.ofDigitChars_ten_toDigits (n := m), h, Nat.ofDigitChars_ten_toDigits]

/-- No sign among the digits of a numeral. -/
lemma not_mem_toDigits {c : Char} (hc : c.isDigit = false) (n : ℕ) : c ∉ Nat.toDigits 10 n := by
  intro h
  have hdigit := Nat.isDigit_of_mem_toDigits (by decide) (by decide) h
  rw [hc] at hdigit
  exact absurd hdigit (by decide)

lemma cons_ne_toDigits {c : Char} (hc : c.isDigit = false) (l : List Char) (n : ℕ) :
    c :: l ≠ Nat.toDigits 10 n := by
  intro h
  exact not_mem_toDigits hc n (h ▸ List.mem_cons_self)

lemma intText_injective : Function.Injective intText := by
  intro m n h
  unfold intText at h
  by_cases hm : m < 0
  · by_cases hn : n < 0
    · rw [if_pos hm, if_pos hn, List.cons.injEq] at h
      have habs := toDigits_injective h.2
      omega
    · rw [if_pos hm, if_neg hn] at h
      exact absurd h (cons_ne_toDigits (by decide) _ _)
  · by_cases hn : n < 0
    · rw [if_neg hm, if_pos hn] at h
      exact absurd h.symm (cons_ne_toDigits (by decide) _ _)
    · rw [if_neg hm, if_neg hn] at h
      have habs := toDigits_injective h
      omega

lemma hexDigit_injOn : Set.InjOn hexDigit {d | d < 16} := by
  have hall : ∀ d : Fin 16, ∀ d' : Fin 16, hexDigit d = hexDigit d' → d = d' := by decide
  intro d hd d' hd' h
  exact congrArg Fin.val (hall ⟨d, hd⟩ ⟨d', hd'⟩ h)

/-- The thirteen hexadecimal digits show the whole fraction. -/
lemma fraction_inj {f g : Fin (2 ^ 52)}
    (h : positional hexDigit 16 13 f = positional hexDigit 16 13 g) : f = g := by
  apply Fin.ext
  have hle : 2 ^ 52 ≤ 16 ^ 13 := by norm_num
  exact positional_inj (by decide) hexDigit_injOn (f.isLt.trans_le hle) (g.isLt.trans_le hle) h

lemma exponentText_inj {e e' : ℕ}
    (h : (if 1023 ≤ e then '+' :: Nat.toDigits 10 (e - 1023) else '-' :: Nat.toDigits 10 (1023 - e))
      = if 1023 ≤ e' then '+' :: Nat.toDigits 10 (e' - 1023)
        else '-' :: Nat.toDigits 10 (1023 - e')) : e = e' := by
  by_cases he : 1023 ≤ e
  · by_cases he' : 1023 ≤ e'
    · rw [if_pos he, if_pos he', List.cons.injEq] at h
      have hdiff := toDigits_injective h.2
      omega
    · rw [if_pos he, if_neg he', List.cons.injEq] at h
      exact absurd h.1 (by decide)
  · by_cases he' : 1023 ≤ e'
    · rw [if_neg he, if_pos he', List.cons.injEq] at h
      exact absurd h.1 (by decide)
    · rw [if_neg he, if_neg he', List.cons.injEq] at h
      have hdiff := toDigits_injective h.2
      omega

lemma hexBody_inj {e e' : Fin 2047} {f f' : Fin (2 ^ 52)}
    (h : PyFloat.hexBody e f = PyFloat.hexBody e' f') : e = e' ∧ f = f' := by
  unfold PyFloat.hexBody at h
  by_cases hz : e = 0 ∧ f = 0
  · by_cases hz' : e' = 0 ∧ f' = 0
    · exact ⟨hz.1.trans hz'.1.symm, hz.2.trans hz'.2.symm⟩
    · -- the text of zero is shorter than any other
      rw [if_pos hz, if_neg hz'] at h
      have hlen := congrArg List.length h
      split at hlen
      · simp at hlen
      · simp at hlen
        omega
  · by_cases hz' : e' = 0 ∧ f' = 0
    · rw [if_neg hz, if_pos hz'] at h
      have hlen := congrArg List.length h
      split at hlen
      · simp at hlen
      · simp at hlen
        omega
    · rw [if_neg hz, if_neg hz'] at h
      by_cases he : e = 0
      · by_cases he' : e' = 0
        · rw [if_pos he, if_pos he', List.append_cancel_left_eq, List.append_cancel_right_eq] at h
          exact ⟨he.trans he'.symm, fraction_inj h⟩
        · rw [if_pos he, if_neg he'] at h
          simp at h
      · by_cases he' : e' = 0
        · rw [if_neg he, if_pos he'] at h
          simp at h
        · rw [if_neg he, if_neg he', List.append_cancel_left_eq] at h
          obtain ⟨hfraction, hexponent⟩ := List.append_inj h (by simp)
          rw [List.cons.injEq] at hexponent
          exact ⟨Fin.ext (exponentText_inj hexponent.2), fraction_inj hfraction⟩

/-- Every finite number starts with a digit after its sign. -/
lemma exists_hexBody_eq_cons (e : Fin 2047) (f : Fin (2 ^ 52)) :
    ∃ l, PyFloat.hexBody e f = '0' :: 'x' :: l := by
  unfold PyFloat.hexBody
  split
  · exact ⟨_, rfl⟩
  · split
    · exact ⟨_, rfl⟩
    · exact ⟨_, rfl⟩

lemma hex_injective : Function.Injective PyFloat.hex := by
  intro x y h
  cases x with
  | nan =>
    cases y with
    | nan => rfl
    | inf s => cases s <;> simp [PyFloat.hex, signText] at h
    | finite s e f =>
      obtain ⟨l, hl⟩ := exists_hexBody_eq_cons e f
      cases s <;> simp [PyFloat.hex, signText, hl] at h
  | inf s =>
    cases y with
    | nan => cases s <;> simp [PyFloat.hex, signText] at h
    | inf s' => cases s <;> cases s' <;> simp [PyFloat.hex, signText] at h ⊢
    | finite s' e f =>
      obtain ⟨l, hl⟩ := exists_hexBody_eq_cons e f
      cases s <;> cases s' <;> simp [PyFloat.hex, signText, hl] at h
  | finite s e f =>
    obtain ⟨l, hl⟩ := exists_hexBody_eq_cons e f
    cases y with
    | nan => cases s <;> simp [PyFloat.hex, signText, hl] at h
    | inf s' => cases s <;> cases s' <;> simp [PyFloat.hex, signText, hl] at h
    | finite s' e' f' =>
      obtain ⟨l', hl'⟩ := exists_hexBody_eq_cons e' f'
      have hsign : s = s' := by
        cases s <;> cases s' <;> simp [PyFloat.hex, signText, hl, hl'] at h ⊢
      unfold PyFloat.hex at h
      rw [hsign, List.append_cancel_left_eq] at h
      obtain ⟨he, hf⟩ := hexBody_inj h
      rw [hsign, he, hf]

/-! ## Frames of values -/

lemma toBytes8_eq_ok_iff {n : ℕ} {b : Bytes} :
    toBytes8 n = .ok b ↔ n < 2 ^ 64 ∧ b = bigEndian 8 n := by
  unfold toBytes8
  simp only [bind_eq_ok_iff, raiseIf_eq_ok_iff, pure_eq_ok, Except.ok.injEq, exists_and_left,
    not_le, exists_const]
  rw [eq_comm (a := b)]

lemma frame_eq_ok_iff {tag : Char} {payload x : Bytes} :
    frame tag payload = .ok x ↔ payload.length < 2 ^ 64 ∧ x = frameBytes (ascii tag) payload := by
  unfold frame frameBytes
  simp only [bind_eq_ok_iff, toBytes8_eq_ok_iff, pure_eq_ok, Except.ok.injEq]
  constructor
  · rintro ⟨_, ⟨hlt, rfl⟩, rfl⟩
    exact ⟨hlt, rfl⟩
  · rintro ⟨hlt, rfl⟩
    exact ⟨_, ⟨hlt, rfl⟩, rfl⟩

/-- The tag of a value's frame. -/
def Value.tag : Value → Char
  | .none => 'n'
  | .enum _ _ => 'e'
  | .bool _ => 'b'
  | .int _ => 'i'
  | .float _ => 'f'
  | .str _ => 's'
  | .bytes _ => 'y'
  | .path _ => 'p'
  | .mapping _ => 'm'
  | .list _ => 'l'
  | .tuple _ => 't'
  | .set _ => 'u'
  | .frozenset _ => 'r'

/-- The payload of a sequence or of sorted set items: their number, and their encodings. -/
def counted (words : List Bytes) : Bytes := bigEndian 8 words.length ++ words.flatten

/-- What a value's frame holds, in terms of what the items of the value are encoded to. -/
inductive Payload : Value → Bytes → Prop
  | none : Payload .none []
  | enum {typeName : String} {v : Value} {x : Bytes} (hname : (utf8 typeName).length < 2 ^ 64)
      (hv : encode v = .ok x) :
      Payload (.enum typeName v) (frameBytes (ascii 'c') (utf8 typeName) ++ x)
  | bool (b : Bool) : Payload (.bool b) [ascii (if b then '1' else '0')]
  | int (n : ℤ) : Payload (.int n) (utf8 (String.ofList (intText n)))
  | float (x : PyFloat) : Payload (.float x) (utf8 (String.ofList x.hex))
  | str (s : String) : Payload (.str s) (utf8 s)
  | bytes (b : Bytes) : Payload (.bytes b) b
  | path (posix : String) : Payload (.path posix) (utf8 posix)
  | mapping {es : List (Value × Value)} {xs : List (Bytes × Bytes)}
      (hes : encodeEntries es = .ok xs) (hcount : xs.length < 2 ^ 64) :
      Payload (.mapping es) (counted ((xs.insertionSort EntryLe).map fun e => e.1 ++ e.2))
  | list {vs : List Value} {xs : List Bytes} (hvs : encodeItems vs = .ok xs)
      (hcount : xs.length < 2 ^ 64) : Payload (.list vs) (counted xs)
  | tuple {vs : List Value} {xs : List Bytes} (hvs : encodeItems vs = .ok xs)
      (hcount : xs.length < 2 ^ 64) : Payload (.tuple vs) (counted xs)
  | set {vs : List Value} {xs : List Bytes} (hvs : encodeItems vs = .ok xs)
      (hcount : xs.length < 2 ^ 64) : Payload (.set vs) (counted (xs.insertionSort (· ≤ ·)))
  | frozenset {vs : List Value} {xs : List Bytes} (hvs : encodeItems vs = .ok xs)
      (hcount : xs.length < 2 ^ 64) :
      Payload (.frozenset vs) (counted (xs.insertionSort (· ≤ ·)))

variable {vs : List Value} {p : Bytes} {v w : Value} {xs ys : List (Bytes × Bytes)}
    {es fs : List (Value × Value)} {x : Bytes}

/-- The items are encoded one by one. -/
lemma encodeItems_eq_ok_iff {xs : List Bytes} :
    encodeItems vs = .ok xs ↔ List.Forall₂ (fun v x => encode v = .ok x) vs xs := by
  induction vs generalizing xs with
  | nil =>
    rw [encodeItems, pure_eq_ok, Except.ok.injEq, List.forall₂_nil_left_iff, eq_comm]
  | cons v vs ih =>
    rw [encodeItems]
    simp only [bind_eq_ok_iff, pure_eq_ok, Except.ok.injEq, ih, List.forall₂_cons_left_iff]
    constructor
    · rintro ⟨x, hx, xs', hxs, rfl⟩
      exact ⟨x, xs', hx, hxs, rfl⟩
    · rintro ⟨x, xs', hx, hxs, rfl⟩
      exact ⟨x, hx, xs', hxs, rfl⟩

/-- The encodings of an entry of a mapping. -/
def EntryEncodes (e : Value × Value) (x : Bytes × Bytes) : Prop :=
  encode e.1 = .ok x.1 ∧ encode e.2 = .ok x.2

lemma encodeEntries_eq_ok_iff {es : List (Value × Value)} {xs : List (Bytes × Bytes)} :
    encodeEntries es = .ok xs ↔ List.Forall₂ EntryEncodes es xs := by
  induction es generalizing xs with
  | nil =>
    rw [encodeEntries, pure_eq_ok, Except.ok.injEq, List.forall₂_nil_left_iff, eq_comm]
  | cons e es ih =>
    obtain ⟨k, v⟩ := e
    rw [encodeEntries]
    simp only [bind_eq_ok_iff, pure_eq_ok, Except.ok.injEq, ih, List.forall₂_cons_left_iff]
    constructor
    · rintro ⟨x, hx, y, hy, xs', hxs, rfl⟩
      exact ⟨(x, y), xs', ⟨hx, hy⟩, hxs, rfl⟩
    · rintro ⟨⟨x, y⟩, xs', ⟨hx, hy⟩, hxs, rfl⟩
      exact ⟨x, hx, y, hy, xs', hxs, rfl⟩

lemma encode_of_payload {v : Value} (h : Payload v p) : encode v = frame v.tag p := by
  cases h with
  | none => rw [encode, Value.tag]
  | enum hname hv =>
    have hc : frame 'c' _ = .ok _ := frame_eq_ok_iff.mpr ⟨hname, rfl⟩
    rw [encode, hc, hv, ok_bind, ok_bind, Value.tag]
  | bool b => rw [encode, Value.tag]
  | int n => rw [encode, Value.tag]
  | float x => rw [encode, Value.tag]
  | str s => rw [encode, Value.tag]
  | bytes b => rw [encode, Value.tag]
  | path posix => rw [encode, Value.tag]
  | @mapping es xs hes hcount =>
    have hlen : (xs.insertionSort EntryLe).length < 2 ^ 64 := by
      rwa [List.length_insertionSort]
    simp only [encode, hes, ok_bind, toBytes8_eq_ok_iff.mpr ⟨hlen, rfl⟩, Value.tag, counted,
      List.length_map]
  | @list vs xs hvs hcount =>
    have hlen : vs.length = xs.length := (encodeItems_eq_ok_iff.mp hvs).length_eq
    rw [encode, hlen, toBytes8_eq_ok_iff.mpr ⟨hcount, rfl⟩, ok_bind, hvs, ok_bind, Value.tag, counted]
  | @tuple vs xs hvs hcount =>
    have hlen : vs.length = xs.length := (encodeItems_eq_ok_iff.mp hvs).length_eq
    rw [encode, hlen, toBytes8_eq_ok_iff.mpr ⟨hcount, rfl⟩, ok_bind, hvs, ok_bind, Value.tag, counted]
  | @set vs xs hvs hcount =>
    have hlen : (xs.insertionSort (· ≤ ·)).length < 2 ^ 64 := by
      rwa [List.length_insertionSort]
    simp only [encode, hvs, ok_bind, toBytes8_eq_ok_iff.mpr ⟨hlen, rfl⟩, Value.tag, counted]
  | @frozenset vs xs hvs hcount =>
    have hlen : (xs.insertionSort (· ≤ ·)).length < 2 ^ 64 := by
      rwa [List.length_insertionSort]
    simp only [encode, hvs, ok_bind, toBytes8_eq_ok_iff.mpr ⟨hlen, rfl⟩, Value.tag, counted]

lemma exists_payload {v : Value} (h : encode v = .ok x) : ∃ p, Payload v p := by
  cases v with
  | none => exact ⟨_, .none⟩
  | enum typeName v =>
    rw [encode] at h
    simp only [bind_eq_ok_iff, frame_eq_ok_iff] at h
    obtain ⟨c, ⟨hname, -⟩, y, hv, -⟩ := h
    exact ⟨_, .enum hname hv⟩
  | bool b => exact ⟨_, .bool b⟩
  | int n => exact ⟨_, .int n⟩
  | float x => exact ⟨_, .float x⟩
  | str s => exact ⟨_, .str s⟩
  | bytes b => exact ⟨_, .bytes b⟩
  | path posix => exact ⟨_, .path posix⟩
  | mapping es =>
    rw [encode] at h
    simp only [bind_eq_ok_iff, toBytes8_eq_ok_iff, List.length_insertionSort] at h
    obtain ⟨xs, hes, c, ⟨hcount, -⟩, -⟩ := h
    exact ⟨_, .mapping hes hcount⟩
  | list vs =>
    rw [encode] at h
    simp only [bind_eq_ok_iff, toBytes8_eq_ok_iff] at h
    obtain ⟨c, ⟨hcount, -⟩, xs, hvs, -⟩ := h
    rw [(encodeItems_eq_ok_iff.mp hvs).length_eq] at hcount
    exact ⟨_, .list hvs hcount⟩
  | tuple vs =>
    rw [encode] at h
    simp only [bind_eq_ok_iff, toBytes8_eq_ok_iff] at h
    obtain ⟨c, ⟨hcount, -⟩, xs, hvs, -⟩ := h
    rw [(encodeItems_eq_ok_iff.mp hvs).length_eq] at hcount
    exact ⟨_, .tuple hvs hcount⟩
  | set vs =>
    rw [encode] at h
    simp only [bind_eq_ok_iff, toBytes8_eq_ok_iff, List.length_insertionSort] at h
    obtain ⟨xs, hvs, c, ⟨hcount, -⟩, -⟩ := h
    exact ⟨_, .set hvs hcount⟩
  | frozenset vs =>
    rw [encode] at h
    simp only [bind_eq_ok_iff, toBytes8_eq_ok_iff, List.length_insertionSort] at h
    obtain ⟨xs, hvs, c, ⟨hcount, -⟩, -⟩ := h
    exact ⟨_, .frozenset hvs hcount⟩

/-- An encoding is the frame of a payload. -/
lemma encode_eq_ok_iff {v : Value} :
    encode v = .ok x ↔
      ∃ p, Payload v p ∧ p.length < 2 ^ 64 ∧ x = frameBytes (ascii v.tag) p := by
  constructor
  · intro h
    obtain ⟨p, hp⟩ := exists_payload h
    rw [encode_of_payload hp, frame_eq_ok_iff] at h
    exact ⟨p, hp, h.1, h.2⟩
  · rintro ⟨p, hp, hlt, hx⟩
    rw [encode_of_payload hp, frame_eq_ok_iff]
    exact ⟨hlt, hx⟩

/-! ## Encodings are self-delimiting -/

/-- The byte strings that are one frame. -/
def frames : Set Bytes := {x | ∃ tag p, p.length < 2 ^ 64 ∧ x = frameBytes tag p}

lemma selfDelimiting_frames : SelfDelimiting frames := by
  rintro _ ⟨tag, p, hp, rfl⟩ _ ⟨tag', p', hp', rfl⟩ s t h
  obtain ⟨htag, hpayload, -⟩ := frameBytes_append_inj hp hp' h
  rw [htag, hpayload]

lemma mem_frames_of_encode {v : Value} (h : encode v = .ok x) : x ∈ frames := by
  obtain ⟨p, -, hlt, hx⟩ := encode_eq_ok_iff.mp h
  exact ⟨_, p, hlt, hx⟩

lemma mem_frames_of_encodeItems {xs : List Bytes} (h : encodeItems vs = .ok xs) :
    ∀ x ∈ xs, x ∈ frames :=
  forall_mem_of_forall₂ (encodeItems_eq_ok_iff.mp h) fun _ _ => mem_frames_of_encode

lemma mem_frames_of_encodeEntries {es : List (Value × Value)} {xs : List (Bytes × Bytes)}
    (h : encodeEntries es = .ok xs) : ∀ x ∈ xs, x.1 ∈ frames ∧ x.2 ∈ frames :=
  forall_mem_of_forall₂ (encodeEntries_eq_ok_iff.mp h) fun _ _ hx =>
    ⟨mem_frames_of_encode hx.1, mem_frames_of_encode hx.2⟩

/-- Counted sequences of frames are equal word by word. -/
lemma counted_inj {C : Set Bytes} (hC : SelfDelimiting C) {xs ys : List Bytes}
    (hxs : ∀ x ∈ xs, x ∈ C) (hys : ∀ y ∈ ys, y ∈ C) (hx : xs.length < 2 ^ 64)
    (hy : ys.length < 2 ^ 64) (h : counted xs = counted ys) : xs = ys := by
  unfold counted at h
  obtain ⟨hcount, hflat⟩ := List.append_inj h (by simp)
  have hlen : xs.length = ys.length := bigEndian_inj hx hy hcount
  have happ : xs.flatten ++ [] = ys.flatten ++ [] := by
    rw [hflat]
  exact hC.flatten_inj hxs hys hlen happ

/-- Joined pairs of frames can be told apart entry by entry. -/
lemma map_append_inj (hxs : ∀ x ∈ xs, x.1 ∈ frames ∧ x.2 ∈ frames)
    (hys : ∀ y ∈ ys, y.1 ∈ frames ∧ y.2 ∈ frames)
    (h : xs.map (fun e => e.1 ++ e.2) = ys.map (fun e => e.1 ++ e.2)) : xs = ys := by
  induction xs generalizing ys with
  | nil => exact (List.map_eq_nil_iff.mp h.symm).symm
  | cons x xs ih =>
    cases ys with
    | nil => simp at h
    | cons y ys =>
      rw [List.map_cons, List.map_cons, List.cons.injEq] at h
      obtain ⟨hx, hxs'⟩ := List.forall_mem_cons.mp hxs
      obtain ⟨hy, hys'⟩ := List.forall_mem_cons.mp hys
      have hpair := selfDelimiting_frames.pair_inj (s := []) (t := []) hx.1 hy.1 hx.2 hy.2
        (by rw [h.1])
      rw [ih hxs' hys' h.2, Prod.ext hpair.1 hpair.2]

/-! ## Sorting the items -/

lemma sort_bytes_eq_iff {xs ys : List Bytes} :
    xs.insertionSort (· ≤ ·) = ys.insertionSort (· ≤ ·) ↔ xs.Perm ys :=
  insertionSort_eq_iff_perm List.le_total (fun _ _ _ => List.le_trans)
    fun _ _ => List.le_antisymm

lemma entryLe_total (e e' : Bytes × Bytes) : EntryLe e e' ∨ EntryLe e' e := by
  unfold EntryLe
  by_cases hlt : e.1 < e'.1
  · exact Or.inl (Or.inl hlt)
  · by_cases hgt : e'.1 < e.1
    · exact Or.inr (Or.inl hgt)
    · have hkey : e.1 = e'.1 := List.le_antisymm hgt hlt
      rcases List.le_total e.2 e'.2 with hle | hge
      · exact Or.inl (Or.inr ⟨hkey, hle⟩)
      · exact Or.inr (Or.inr ⟨hkey.symm, hge⟩)

lemma entryLe_trans {a b c : Bytes × Bytes} (hab : EntryLe a b) (hbc : EntryLe b c) :
    EntryLe a c := by
  unfold EntryLe at *
  rcases hab with hab | ⟨hab, hab'⟩
  · rcases hbc with hbc | ⟨hbc, -⟩
    · exact Or.inl (List.lt_trans hab hbc)
    · exact Or.inl (hbc ▸ hab)
  · rcases hbc with hbc | ⟨hbc, hbc'⟩
    · exact Or.inl (hab ▸ hbc)
    · exact Or.inr ⟨hab.trans hbc, List.le_trans hab' hbc'⟩

lemma entryLe_antisymm {a b : Bytes × Bytes} (hab : EntryLe a b) (hba : EntryLe b a) : a = b := by
  unfold EntryLe at *
  rcases hab with hab | ⟨hab, hab'⟩
  · rcases hba with hba | ⟨hba, -⟩
    · exact absurd (List.lt_trans hab hba) (List.lt_irrefl _)
    · exact absurd (hba ▸ hab) (List.lt_irrefl _)
  · rcases hba with hba | ⟨-, hba'⟩
    · exact absurd (hab ▸ hba) (List.lt_irrefl _)
    · exact Prod.ext hab (List.le_antisymm hab' hba')

lemma sort_entries_eq_iff : xs.insertionSort EntryLe = ys.insertionSort EntryLe ↔ xs.Perm ys :=
  insertionSort_eq_iff_perm entryLe_total (fun _ _ _ => entryLe_trans)
    fun _ _ => entryLe_antisymm

/-! ## Equal encodings come from equal values -/

lemma ascii_inj {c d : Char} (hc : c.toNat < 256) (hd : d.toNat < 256) (h : ascii c = ascii d) :
    c = d := by
  unfold ascii at h
  have hnat := congrArg UInt8.toNat h
  rw [UInt8.toNat_ofNat_of_lt' hc, UInt8.toNat_ofNat_of_lt' hd] at hnat
  exact Char.toNat_inj.mp hnat

lemma tag_inj (h : ascii v.tag = ascii w.tag) : v.tag = w.tag := by
  have htag : ∀ u : Value, u.tag.toNat < 256 := by
    intro u
    cases u <;> simp [Value.tag]
  exact ascii_inj (htag v) (htag w) h

/-- Equal encodings are frames with one tag around one payload. -/
lemma payloads_of_encode_eq (hv : encode v = .ok x) (hw : encode w = .ok x) :
    v.tag = w.tag ∧ ∃ p, Payload v p ∧ Payload w p := by
  obtain ⟨p, hp, hlt, hx⟩ := encode_eq_ok_iff.mp hv
  obtain ⟨q, hq, hlt', hx'⟩ := encode_eq_ok_iff.mp hw
  obtain ⟨htag, hpq⟩ := frameBytes_inj hlt hlt' (hx.symm.trans hx')
  exact ⟨tag_inj htag, p, hp, hpq ▸ hq⟩

lemma utf8_ofList_inj {a b : List Char} (h : utf8 (String.ofList a) = utf8 (String.ofList b)) :
    a = b := String.ofList_injective (utf8_injective h)

/-- The values without items. -/
def Value.IsAtom : Value → Prop
  | .enum _ _ | .mapping _ | .list _ | .tuple _ | .set _ | .frozenset _ => False
  | _ => True

/-- The payload of an atom. -/
def Value.atomPayload : Value → Bytes
  | .bool b => [ascii (if b then '1' else '0')]
  | .int n => utf8 (String.ofList (intText n))
  | .float x => utf8 (String.ofList x.hex)
  | .str s => utf8 s
  | .bytes b => b
  | .path posix => utf8 posix
  | _ => []

lemma Payload.eq_atomPayload {v : Value} (h : Payload v p) (hv : v.IsAtom) : p = v.atomPayload := by
  cases h <;> first | rfl | exact hv.elim

/-- Atoms with one tag and one payload are equal. -/
lemma eq_of_atomPayload_eq (hv : v.IsAtom) (htag : v.tag = w.tag)
    (h : v.atomPayload = w.atomPayload) : v = w := by
  cases v with
  | enum => exact hv.elim
  | mapping => exact hv.elim
  | list => exact hv.elim
  | tuple => exact hv.elim
  | set => exact hv.elim
  | frozenset => exact hv.elim
  | none =>
    cases w <;> simp [Value.tag] at htag
    rfl
  | bool b =>
    cases w <;> simp [Value.tag] at htag
    rename_i b'
    cases b <;> cases b' <;> first | rfl | exact absurd h (by decide)
  | int n =>
    cases w <;> simp [Value.tag] at htag
    exact congrArg Value.int (intText_injective (utf8_ofList_inj h))
  | float x =>
    cases w <;> simp [Value.tag] at htag
    exact congrArg Value.float (hex_injective (utf8_ofList_inj h))
  | str s =>
    cases w <;> simp [Value.tag] at htag
    exact congrArg Value.str (utf8_injective h)
  | bytes b =>
    cases w <;> simp [Value.tag] at htag
    exact congrArg Value.bytes h
  | path posix =>
    cases w <;> simp [Value.tag] at htag
    exact congrArg Value.path (utf8_injective h)

lemma isAtom_of_tag_eq (htag : v.tag = w.tag) (hv : v.IsAtom) : w.IsAtom := by
  cases v <;> cases w <;> first | exact trivial | exact hv.elim | simp [Value.tag] at htag

lemma same_of_atom (hv : v.IsAtom) (htag : v.tag = w.tag) (hp : Payload v p) (hq : Payload w p) :
    Same v w := by
  have hpayload : v.atomPayload = w.atomPayload := by
    rw [← hp.eq_atomPayload hv, ← hq.eq_atomPayload (isAtom_of_tag_eq htag hv)]
  rw [eq_of_atomPayload_eq hv htag hpayload]
  exact .refl _

lemma Payload.enum_inv {typeName : String} {v : Value} (h : Payload (.enum typeName v) p) :
    (utf8 typeName).length < 2 ^ 64 ∧
      ∃ x, encode v = .ok x ∧ p = frameBytes (ascii 'c') (utf8 typeName) ++ x := by
  cases h with
  | enum hname hv => exact ⟨hname, _, hv, rfl⟩

lemma Payload.mapping_inv {es : List (Value × Value)} (h : Payload (.mapping es) p) :
    ∃ xs, encodeEntries es = .ok xs ∧ xs.length < 2 ^ 64 ∧
      p = counted ((xs.insertionSort EntryLe).map fun e => e.1 ++ e.2) := by
  cases h with
  | mapping hes hcount => exact ⟨_, hes, hcount, rfl⟩

lemma Payload.list_inv (h : Payload (.list vs) p) :
    ∃ xs, encodeItems vs = .ok xs ∧ xs.length < 2 ^ 64 ∧ p = counted xs := by
  cases h with
  | list hvs hcount => exact ⟨_, hvs, hcount, rfl⟩

lemma Payload.tuple_inv (h : Payload (.tuple vs) p) :
    ∃ xs, encodeItems vs = .ok xs ∧ xs.length < 2 ^ 64 ∧ p = counted xs := by
  cases h with
  | tuple hvs hcount => exact ⟨_, hvs, hcount, rfl⟩

lemma Payload.set_inv (h : Payload (.set vs) p) :
    ∃ xs, encodeItems vs = .ok xs ∧ xs.length < 2 ^ 64 ∧
      p = counted (xs.insertionSort (· ≤ ·)) := by
  cases h with
  | set hvs hcount => exact ⟨_, hvs, hcount, rfl⟩

lemma Payload.frozenset_inv (h : Payload (.frozenset vs) p) :
    ∃ xs, encodeItems vs = .ok xs ∧ xs.length < 2 ^ 64 ∧
      p = counted (xs.insertionSort (· ≤ ·)) := by
  cases h with
  | frozenset hvs hcount => exact ⟨_, hvs, hcount, rfl⟩

/-- Sorted encodings agree when the items can be rearranged to agree. -/
lemma rearranged_items {vs ws : List Value} {xs ys : List Bytes} (hvs : encodeItems vs = .ok xs)
    (hws : encodeItems ws = .ok ys) (hx : xs.length < 2 ^ 64) (hy : ys.length < 2 ^ 64)
    (h : counted (xs.insertionSort (· ≤ ·)) = counted (ys.insertionSort (· ≤ ·))) :
    ∃ ws', ws'.Perm ws ∧ encodeItems ws' = .ok xs := by
  have hsorted := counted_inj selfDelimiting_frames
    (fun x hx => mem_frames_of_encodeItems hvs x ((List.mem_insertionSort _).mp hx))
    (fun y hy => mem_frames_of_encodeItems hws y ((List.mem_insertionSort _).mp hy))
    (by rwa [List.length_insertionSort]) (by rwa [List.length_insertionSort]) h
  have hperm : ys.Perm xs := (sort_bytes_eq_iff.mp hsorted).symm
  obtain ⟨ws', hws', hall⟩ := exists_perm_forall₂ (encodeItems_eq_ok_iff.mp hws) hperm
  exact ⟨ws', hws', encodeItems_eq_ok_iff.mpr hall⟩

lemma rearranged_entries (hes : encodeEntries es = .ok xs) (hfs : encodeEntries fs = .ok ys)
    (hx : xs.length < 2 ^ 64) (hy : ys.length < 2 ^ 64)
    (h : counted ((xs.insertionSort EntryLe).map fun e => e.1 ++ e.2)
      = counted ((ys.insertionSort EntryLe).map fun e => e.1 ++ e.2)) :
    ∃ fs', fs'.Perm fs ∧ encodeEntries fs' = .ok xs := by
  have hxs : ∀ x ∈ xs.insertionSort EntryLe, x.1 ∈ frames ∧ x.2 ∈ frames :=
    fun x hx => mem_frames_of_encodeEntries hes x ((List.mem_insertionSort _).mp hx)
  have hys : ∀ y ∈ ys.insertionSort EntryLe, y.1 ∈ frames ∧ y.2 ∈ frames :=
    fun y hy => mem_frames_of_encodeEntries hfs y ((List.mem_insertionSort _).mp hy)
  have hwords : ∀ zs : List (Bytes × Bytes), (∀ z ∈ zs, z.1 ∈ frames ∧ z.2 ∈ frames) →
      ∀ w ∈ zs.map (fun e => e.1 ++ e.2),
        w ∈ {w | ∃ x ∈ frames, ∃ y ∈ frames, w = x ++ y} := by
    intro zs hzs w hw
    obtain ⟨z, hz, rfl⟩ := List.mem_map.mp hw
    exact ⟨z.1, (hzs z hz).1, z.2, (hzs z hz).2, rfl⟩
  have hmaps := counted_inj selfDelimiting_frames.pairs (hwords _ hxs) (hwords _ hys)
    (by rwa [List.length_map, List.length_insertionSort])
    (by rwa [List.length_map, List.length_insertionSort]) h
  have hperm : ys.Perm xs := (sort_entries_eq_iff.mp (map_append_inj hxs hys hmaps)).symm
  obtain ⟨fs', hfs', hall⟩ := exists_perm_forall₂ (encodeEntries_eq_ok_iff.mp hfs) hperm
  exact ⟨fs', hfs', encodeEntries_eq_ok_iff.mpr hall⟩

mutual

/-- Values with one encoding are the same up to order. -/
theorem same_of_encode_eq (v w : Value) {x : Bytes} (hv : encode v = .ok x)
    (hw : encode w = .ok x) : Same v w := by
  obtain ⟨htag, p, hp, hq⟩ := payloads_of_encode_eq hv hw
  cases v with
  | none => exact same_of_atom trivial htag hp hq
  | bool b => exact same_of_atom trivial htag hp hq
  | int n => exact same_of_atom trivial htag hp hq
  | float x => exact same_of_atom trivial htag hp hq
  | str s => exact same_of_atom trivial htag hp hq
  | bytes b => exact same_of_atom trivial htag hp hq
  | path posix => exact same_of_atom trivial htag hp hq
  | enum typeName v =>
    cases w <;> simp [Value.tag] at htag
    rename_i typeName' w
    obtain ⟨hname, y, hy, hpy⟩ := hp.enum_inv
    obtain ⟨hname', z, hz, hpz⟩ := hq.enum_inv
    obtain ⟨-, hnames, hyz⟩ := frameBytes_append_inj hname hname' (hpy.symm.trans hpz)
    rw [← utf8_injective hnames]
    exact .enumValue typeName (same_of_encode_eq v w hy (hyz ▸ hz))
  | mapping es =>
    cases w <;> simp [Value.tag] at htag
    rename_i fs
    obtain ⟨xs, hxs, hx, hpx⟩ := hp.mapping_inv
    obtain ⟨ys, hys, hy, hpy⟩ := hq.mapping_inv
    obtain ⟨fs', hperm, hfs'⟩ := rearranged_entries hxs hys hx hy (hpx.symm.trans hpy)
    have hsame : Same (.mapping es) (.mapping fs') :=
      .of_forall₂ (fun pre post _ _ h => .mappingEntry pre post h.1 h.2)
        (forall₂_same_of_encodeEntries_eq es fs' hxs hfs')
    exact hsame.trans (.mappingOrder hperm)
  | list vs =>
    cases w <;> simp [Value.tag] at htag
    rename_i ws
    obtain ⟨xs, hxs, hx, hpx⟩ := hp.list_inv
    obtain ⟨ys, hys, hy, hpy⟩ := hq.list_inv
    have hitems := counted_inj selfDelimiting_frames (mem_frames_of_encodeItems hxs)
      (mem_frames_of_encodeItems hys) hx hy (hpx.symm.trans hpy)
    exact .of_forall₂ (fun pre post _ _ h => .listItem pre post h)
      (forall₂_same_of_encodeItems_eq vs ws hxs (hitems ▸ hys))
  | tuple vs =>
    cases w <;> simp [Value.tag] at htag
    rename_i ws
    obtain ⟨xs, hxs, hx, hpx⟩ := hp.tuple_inv
    obtain ⟨ys, hys, hy, hpy⟩ := hq.tuple_inv
    have hitems := counted_inj selfDelimiting_frames (mem_frames_of_encodeItems hxs)
      (mem_frames_of_encodeItems hys) hx hy (hpx.symm.trans hpy)
    exact .of_forall₂ (fun pre post _ _ h => .tupleItem pre post h)
      (forall₂_same_of_encodeItems_eq vs ws hxs (hitems ▸ hys))
  | set vs =>
    cases w <;> simp [Value.tag] at htag
    rename_i ws
    obtain ⟨xs, hxs, hx, hpx⟩ := hp.set_inv
    obtain ⟨ys, hys, hy, hpy⟩ := hq.set_inv
    obtain ⟨ws', hperm, hws'⟩ := rearranged_items hxs hys hx hy (hpx.symm.trans hpy)
    have hsame : Same (.set vs) (.set ws') :=
      .of_forall₂ (fun pre post _ _ h => .setItem pre post h)
        (forall₂_same_of_encodeItems_eq vs ws' hxs hws')
    exact hsame.trans (.setOrder hperm)
  | frozenset vs =>
    cases w <;> simp [Value.tag] at htag
    rename_i ws
    obtain ⟨xs, hxs, hx, hpx⟩ := hp.frozenset_inv
    obtain ⟨ys, hys, hy, hpy⟩ := hq.frozenset_inv
    obtain ⟨ws', hperm, hws'⟩ := rearranged_items hxs hys hx hy (hpx.symm.trans hpy)
    have hsame : Same (.frozenset vs) (.frozenset ws') :=
      .of_forall₂ (fun pre post _ _ h => .frozensetItem pre post h)
        (forall₂_same_of_encodeItems_eq vs ws' hxs hws')
    exact hsame.trans (.frozensetOrder hperm)

/-- Items with the same encodings, one by one, are the same. -/
theorem forall₂_same_of_encodeItems_eq (vs ws : List Value) {xs : List Bytes}
    (hvs : encodeItems vs = .ok xs) (hws : encodeItems ws = .ok xs) :
    List.Forall₂ Same vs ws := by
  have hvs' := encodeItems_eq_ok_iff.mp hvs
  have hws' := encodeItems_eq_ok_iff.mp hws
  cases vs with
  | nil =>
    rw [List.forall₂_nil_left_iff] at hvs'
    rw [hvs', List.forall₂_nil_right_iff] at hws'
    rw [hws']
    exact .nil
  | cons v vs =>
    obtain ⟨x, xs', hx, hxs, rfl⟩ := List.forall₂_cons_left_iff.mp hvs'
    obtain ⟨w, ws', hw, hrest, rfl⟩ := List.forall₂_cons_right_iff.mp hws'
    exact .cons (same_of_encode_eq v w hx hw)
      (forall₂_same_of_encodeItems_eq vs ws' (encodeItems_eq_ok_iff.mpr hxs)
        (encodeItems_eq_ok_iff.mpr hrest))

/-- Entries with the same encodings, one by one, have the same keys and items. -/
theorem forall₂_same_of_encodeEntries_eq (es fs : List (Value × Value)) {xs : List (Bytes × Bytes)}
    (hes : encodeEntries es = .ok xs) (hfs : encodeEntries fs = .ok xs) :
    List.Forall₂ (fun e f => Same e.1 f.1 ∧ Same e.2 f.2) es fs := by
  have hes' := encodeEntries_eq_ok_iff.mp hes
  have hfs' := encodeEntries_eq_ok_iff.mp hfs
  cases es with
  | nil =>
    rw [List.forall₂_nil_left_iff] at hes'
    rw [hes', List.forall₂_nil_right_iff] at hfs'
    rw [hfs']
    exact .nil
  | cons e es =>
    obtain ⟨k, v⟩ := e
    obtain ⟨x, xs', hx, hxs, rfl⟩ := List.forall₂_cons_left_iff.mp hes'
    obtain ⟨f, fs', hf, hrest, rfl⟩ := List.forall₂_cons_right_iff.mp hfs'
    exact .cons ⟨same_of_encode_eq k f.1 hx.1 hf.1, same_of_encode_eq v f.2 hx.2 hf.2⟩
      (forall₂_same_of_encodeEntries_eq es fs' (encodeEntries_eq_ok_iff.mpr hxs)
        (encodeEntries_eq_ok_iff.mpr hrest))

end

/-! ## Values that are the same have one encoding -/

/-- Replacing an item by one with the same encodings does not change the encodings. -/
lemma encodeItems_replace (h : ∀ x, encode v = .ok x ↔ encode w = .ok x) (pre post : List Value)
    (xs : List Bytes) :
    encodeItems (pre ++ v :: post) = .ok xs ↔ encodeItems (pre ++ w :: post) = .ok xs := by
  induction pre generalizing xs with
  | nil =>
    simp only [List.nil_append, encodeItems, bind_eq_ok_iff, h]
  | cons u pre ih =>
    simp only [List.cons_append, encodeItems, bind_eq_ok_iff, ih]

lemma encodeEntries_replace {k k' v v' : Value} (hk : ∀ x, encode k = .ok x ↔ encode k' = .ok x)
    (hv : ∀ x, encode v = .ok x ↔ encode v' = .ok x) (pre post : List (Value × Value))
    (xs : List (Bytes × Bytes)) :
    encodeEntries (pre ++ (k, v) :: post) = .ok xs
      ↔ encodeEntries (pre ++ (k', v') :: post) = .ok xs := by
  induction pre generalizing xs with
  | nil =>
    simp only [List.nil_append, encodeEntries, bind_eq_ok_iff, hk, hv]
  | cons e pre ih =>
    obtain ⟨l, u⟩ := e
    simp only [List.cons_append, encodeEntries, bind_eq_ok_iff, ih]

/-- Rearranged items have rearranged encodings. -/
lemma encodeItems_perm {vs ws : List Value} (h : vs.Perm ws) {xs : List Bytes}
    (hvs : encodeItems vs = .ok xs) : ∃ ys, ys.Perm xs ∧ encodeItems ws = .ok ys := by
  obtain ⟨ys, hall, hperm⟩ := List.perm_comp_forall₂ h.symm (encodeItems_eq_ok_iff.mp hvs)
  exact ⟨ys, hperm, encodeItems_eq_ok_iff.mpr hall⟩

lemma encodeEntries_perm (h : es.Perm fs) {xs : List (Bytes × Bytes)}
    (hes : encodeEntries es = .ok xs) : ∃ ys, ys.Perm xs ∧ encodeEntries fs = .ok ys := by
  obtain ⟨ys, hall, hperm⟩ := List.perm_comp_forall₂ h.symm (encodeEntries_eq_ok_iff.mp hes)
  exact ⟨ys, hperm, encodeEntries_eq_ok_iff.mpr hall⟩

lemma encode_mapping_of_perm (h : es.Perm fs) (hx : encode (.mapping es) = .ok x) :
    encode (.mapping fs) = .ok x := by
  rw [encode] at hx ⊢
  obtain ⟨xs, hxs, hrest⟩ := bind_eq_ok_iff.mp hx
  obtain ⟨ys, hperm, hys⟩ := encodeEntries_perm h hxs
  rw [bind_eq_ok_iff]
  refine ⟨ys, hys, ?_⟩
  rw [sort_entries_eq_iff.mpr hperm]
  exact hrest

lemma encode_set_of_perm {vs ws : List Value} (h : vs.Perm ws) (hx : encode (.set vs) = .ok x) :
    encode (.set ws) = .ok x := by
  rw [encode] at hx ⊢
  obtain ⟨xs, hxs, hrest⟩ := bind_eq_ok_iff.mp hx
  obtain ⟨ys, hperm, hys⟩ := encodeItems_perm h hxs
  rw [bind_eq_ok_iff]
  refine ⟨ys, hys, ?_⟩
  rw [sort_bytes_eq_iff.mpr hperm]
  exact hrest

lemma encode_frozenset_of_perm {vs ws : List Value} (h : vs.Perm ws)
    (hx : encode (.frozenset vs) = .ok x) : encode (.frozenset ws) = .ok x := by
  rw [encode] at hx ⊢
  obtain ⟨xs, hxs, hrest⟩ := bind_eq_ok_iff.mp hx
  obtain ⟨ys, hperm, hys⟩ := encodeItems_perm h hxs
  rw [bind_eq_ok_iff]
  refine ⟨ys, hys, ?_⟩
  rw [sort_bytes_eq_iff.mpr hperm]
  exact hrest

/-- The encoding does not see the order of entries and set items. -/
theorem Same.encode_eq_ok_iff (h : Same v w) : ∀ x, encode v = .ok x ↔ encode w = .ok x := by
  induction h with
  | refl v => exact fun x => Iff.rfl
  | symm _ ih => exact fun x => (ih x).symm
  | trans _ _ ih ih' => exact fun x => (ih x).trans (ih' x)
  | enumValue typeName _ ih =>
    intro x
    simp only [encode, bind_eq_ok_iff, ih]
  | mappingEntry pre post _ _ ihk ihv =>
    intro x
    simp only [encode, bind_eq_ok_iff, encodeEntries_replace ihk ihv pre post]
  | listItem pre post _ ih =>
    intro x
    simp only [encode, bind_eq_ok_iff, encodeItems_replace ih pre post, List.length_append,
      List.length_cons]
  | tupleItem pre post _ ih =>
    intro x
    simp only [encode, bind_eq_ok_iff, encodeItems_replace ih pre post, List.length_append,
      List.length_cons]
  | setItem pre post _ ih =>
    intro x
    simp only [encode, bind_eq_ok_iff, encodeItems_replace ih pre post]
  | frozensetItem pre post _ ih =>
    intro x
    simp only [encode, bind_eq_ok_iff, encodeItems_replace ih pre post]
  | mappingOrder hp => exact fun x => ⟨encode_mapping_of_perm hp, encode_mapping_of_perm hp.symm⟩
  | setOrder hp => exact fun x => ⟨encode_set_of_perm hp, encode_set_of_perm hp.symm⟩
  | frozensetOrder hp =>
    exact fun x => ⟨encode_frozenset_of_perm hp, encode_frozenset_of_perm hp.symm⟩

/-! ## Main results -/

lemma encode_eq_iff_same {x y : Bytes} (hv : encode v = .ok x) (hw : encode w = .ok y) :
    x = y ↔ Same v w := by
  constructor
  · rintro rfl
    exact same_of_encode_eq v w hv hw
  · intro h
    have hx := (h.encode_eq_ok_iff x).mp hv
    exact Except.ok.inj (hx.symm.trans hw)

lemma canonicalIdentityBytes_eq_ok_iff {v : Value} :
    canonicalIdentityBytes v = .ok x ↔ ∃ y, encode v = .ok y ∧ x = formatPrefix ++ y := by
  unfold canonicalIdentityBytes
  simp only [bind_eq_ok_iff, pure_eq_ok, Except.ok.injEq]
  constructor
  · rintro ⟨y, hy, rfl⟩
    exact ⟨y, hy, rfl⟩
  · rintro ⟨y, hy, rfl⟩
    exact ⟨y, hy, rfl⟩

lemma digestPayload_eq_ok_iff {v : Value} {d : String} :
    digestPayload v d = .ok p ↔ strip d ≠ "" ∧ (utf8 (strip d)).length < 2 ^ 64 ∧
      ∃ y, encode v = .ok y ∧
        p = formatPrefix ++ frameBytes (ascii 'D') (utf8 (strip d)) ++ y := by
  unfold digestPayload
  simp only [bind_eq_ok_iff, raiseIf_eq_ok_iff, frame_eq_ok_iff, pure_eq_ok, Except.ok.injEq]
  constructor
  · rintro ⟨_, hne, _, ⟨hlt, rfl⟩, y, hy, rfl⟩
    exact ⟨hne, hlt, y, hy, rfl⟩
  · rintro ⟨hne, hlt, y, hy, rfl⟩
    exact ⟨(), hne, _, ⟨hlt, rfl⟩, y, hy, rfl⟩

/-- The canonical encoding is injective up to the order of mapping entries and set items,
no encoding begins another one, and the hashed byte string determines the stripped domain
and the value. -/
theorem canonical_identity_injective {v w : Value} {x y : Bytes}
    (hv : canonicalIdentityBytes v = .ok x) (hw : canonicalIdentityBytes w = .ok y) :
    (x = y ↔ Same v w) ∧ (x <+: y → x = y) ∧
      ∀ {d e : String} {p q : Bytes}, digestPayload v d = .ok p → digestPayload w e = .ok q →
        (p = q ↔ strip d = strip e ∧ Same v w) := by
  obtain ⟨a, ha, rfl⟩ := canonicalIdentityBytes_eq_ok_iff.mp hv
  obtain ⟨b, hb, rfl⟩ := canonicalIdentityBytes_eq_ok_iff.mp hw
  refine ⟨?_, ?_, ?_⟩
  · rw [List.append_cancel_left_eq]
    exact encode_eq_iff_same ha hb
  · rintro ⟨t, ht⟩
    rw [List.append_assoc, List.append_cancel_left_eq] at ht
    have hab : a = b := selfDelimiting_frames a (mem_frames_of_encode ha) b
      (mem_frames_of_encode hb) t [] (by rw [ht, List.append_nil])
    rw [hab]
  · intro d e p q hp hq
    obtain ⟨-, hd, a', ha', rfl⟩ := digestPayload_eq_ok_iff.mp hp
    obtain ⟨-, he, b', hb', rfl⟩ := digestPayload_eq_ok_iff.mp hq
    rw [List.append_assoc, List.append_assoc, List.append_cancel_left_eq]
    constructor
    · intro h
      obtain ⟨-, hdomain, hab⟩ := frameBytes_append_inj hd he h
      exact ⟨utf8_injective hdomain, (encode_eq_iff_same ha' hb').mp hab⟩
    · rintro ⟨hdomain, hsame⟩
      rw [hdomain, (encode_eq_iff_same ha' hb').mpr hsame]

/-- The set `{1, "a"}` in its two orders, under two spellings of one domain. -/
theorem canonical_identity_injective_set :
    ∃ x p, canonicalIdentityBytes (.set [.int 1, .str "a"]) = .ok x ∧
      canonicalIdentityBytes (.set [.str "a", .int 1]) = .ok x ∧
      digestPayload (.set [.int 1, .str "a"]) "task" = .ok p ∧
      digestPayload (.set [.str "a", .int 1]) " task" = .ok p ∧
      Same (.set [.int 1, .str "a"]) (.set [.str "a", .int 1]) := by
  refine ⟨_, _, rfl, rfl, rfl, rfl, ?_⟩
  exact (canonical_identity_injective (v := .set [.int 1, .str "a"]) rfl rfl).1.mp rfl

end Agintor.Core
