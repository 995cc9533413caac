import Mathlib.Data.Nat.Digits.Defs
import Mathlib.Tactic.Common

/-!
# Records as bytes

A record is a list of fields, each an unsigned little-endian word of some size with an alignment.
The two common rules for placing fields (each at the next multiple of its alignment, or packed) are
one rule at different alignments. Bytes are `BitVec 8`, words of any size are natural numbers.
-/

namespace RecordLayout

/-! ## Little-endian words -/

/-- The `n` bytes of a word, the least significant first. -/
def toBytes : ℕ → ℕ → List (BitVec 8)
  | 0, _ => []
  | n + 1, v => BitVec.ofNat 8 v :: toBytes n (v / 256)

/-- The word that bytes spell. -/
def ofBytes (bs : List (BitVec 8)) : ℕ :=
  Nat.ofDigits 256 (bs.map BitVec.toNat)

@[simp] theorem length_toBytes (n v : ℕ) : (toBytes n v).length = n := by
  induction n generalizing v with
  | zero => rfl
  | succ n ih => rw [toBytes, List.length_cons, ih]

theorem ofBytes_toBytes (n v : ℕ) : ofBytes (toBytes n v) = v % 256 ^ n := by
  induction n generalizing v with
  | zero => rw [pow_zero, Nat.mod_one]; rfl
  | succ n ih =>
      have hcons : ofBytes (toBytes (n + 1) v)
          = (BitVec.ofNat 8 v).toNat + 256 * ofBytes (toBytes n (v / 256)) := by
        rw [toBytes, ofBytes, List.map_cons, Nat.ofDigits_cons, ofBytes]
      rw [hcons, ih, BitVec.toNat_ofNat, show (2 : ℕ) ^ 8 = 256 from rfl, pow_succ', Nat.mod_mul]

/-- A word that fits in `n` bytes is read back from them. -/
theorem ofBytes_toBytes_of_lt {n v : ℕ} (h : v < 256 ^ n) : ofBytes (toBytes n v) = v := by
  rw [ofBytes_toBytes, Nat.mod_eq_of_lt h]

/-- The word of the `n` bytes at offset `o`. -/
def readAt (bs : List (BitVec 8)) (n o : ℕ) : ℕ :=
  ofBytes ((bs.drop o).take n)

/-- A word is read at the place where its bytes begin. -/
theorem readAt_append {front back : List (BitVec 8)} {n v o : ℕ} (ho : front.length = o)
    (h : v < 256 ^ n) : readAt (front ++ toBytes n v ++ back) n o = v := by
  have hdrop : (front ++ toBytes n v ++ back).drop o = toBytes n v ++ back := by
    rw [List.append_assoc, List.drop_left' ho]
  rw [readAt, hdrop, List.take_left' (length_toBytes n v), ofBytes_toBytes_of_lt h]

/-! ## Placing fields -/

/-- A field: its size and its alignment, in bytes. -/
structure Field where
  size : ℕ
  align : ℕ
deriving DecidableEq, Repr

/-- The first multiple of `a` from `o` on. -/
def alignUp (a o : ℕ) : ℕ :=
  (o + (a - 1)) / a * a

theorem le_alignUp {a : ℕ} (ha : 0 < a) (o : ℕ) : o ≤ alignUp a o := by
  have hmod := Nat.div_add_mod (o + (a - 1)) a
  have hlt := Nat.mod_lt (o + (a - 1)) ha
  rw [Nat.mul_comm] at hmod
  unfold alignUp
  omega

/-- Where the fields of a record begin, when the first may begin at `o`. -/
def offsetsFrom : ℕ → List Field → List ℕ
  | _, [] => []
  | o, f :: fs => alignUp f.align o :: offsetsFrom (alignUp f.align o + f.size) fs

/-- Where the fields of a record begin. -/
def offsets (fs : List Field) : List ℕ :=
  offsetsFrom 0 fs

/-- Where the last field of a record ends, when the first may begin at `o`. -/
def endFrom : ℕ → List Field → ℕ
  | o, [] => o
  | o, f :: fs => endFrom (alignUp f.align o + f.size) fs

/-- The size of a record, rounded up to its strictest alignment. -/
def recordSize (fs : List Field) : ℕ :=
  alignUp (fs.foldr (fun f a ↦ max f.align a) 1) (endFrom 0 fs)

/-- The same fields with no alignment above `n`. -/
def pack (n : ℕ) (fs : List Field) : List Field :=
  fs.map fun f ↦ { f with align := min n f.align }

/-! ## The image of a record -/

/-- The bytes of fields with their values, from offset `o` on; what lies between two fields is
`gap`. -/
def imageFrom (gap : BitVec 8) : ℕ → List (Field × ℕ) → List (BitVec 8)
  | _, [] => []
  | o, (f, v) :: fs =>
      List.replicate (alignUp f.align o - o) gap ++ toBytes f.size v
        ++ imageFrom gap (alignUp f.align o + f.size) fs

/-- The bytes of a record. -/
def image (gap : BitVec 8) (fs : List (Field × ℕ)) : List (BitVec 8) :=
  imageFrom gap 0 fs

/-- The values that a record's fields have in bytes. -/
def parse (fs : List Field) (bs : List (BitVec 8)) : List ℕ :=
  List.zipWith (fun f o ↦ readAt bs f.size o) fs (offsets fs)

/-- A field that can be placed and whose value fits. -/
def Fits (fv : Field × ℕ) : Prop :=
  0 < fv.1.align ∧ fv.2 < 256 ^ fv.1.size

theorem length_imageFrom (gap : BitVec 8) {fvs : List (Field × ℕ)} (h : ∀ fv ∈ fvs, Fits fv)
    (o : ℕ) : o + (imageFrom gap o fvs).length = endFrom o (fvs.map Prod.fst) := by
  induction fvs generalizing o with
  | nil => rfl
  | cons fv fvs ih =>
      have hle := le_alignUp (h fv List.mem_cons_self).1 o
      have hrest := ih (fun fv' hm ↦ h fv' (List.mem_cons_of_mem _ hm))
        (alignUp fv.1.align o + fv.1.size)
      simp only [imageFrom, List.length_append, List.length_replicate, length_toBytes,
        List.map_cons, endFrom]
      omega

/-- The image of a record ends where its last field does. -/
theorem length_image (gap : BitVec 8) {fvs : List (Field × ℕ)} (h : ∀ fv ∈ fvs, Fits fv) :
    (image gap fvs).length = endFrom 0 (fvs.map Prod.fst) := by
  have := length_imageFrom gap h 0
  rwa [Nat.zero_add] at this

theorem zipWith_readAt_imageFrom (gap : BitVec 8) {fvs : List (Field × ℕ)}
    (h : ∀ fv ∈ fvs, Fits fv) (front back : List (BitVec 8)) {o : ℕ} (ho : front.length = o) :
    List.zipWith (fun f p ↦ readAt (front ++ imageFrom gap o fvs ++ back) f.size p)
      (fvs.map Prod.fst) (offsetsFrom o (fvs.map Prod.fst)) = fvs.map Prod.snd := by
  induction fvs generalizing front o with
  | nil => rfl
  | cons fv fvs ih =>
      obtain ⟨halign, hfits⟩ := h fv List.mem_cons_self
      have hle := le_alignUp halign o
      -- the image is what stands before the field, the field, and the rest
      let before := front ++ List.replicate (alignUp fv.1.align o - o) gap
      let rest := imageFrom gap (alignUp fv.1.align o + fv.1.size) fvs
      have hbefore : before.length = alignUp fv.1.align o := by
        simp only [before, List.length_append, List.length_replicate, ho]
        omega
      have hsplit : front ++ imageFrom gap o (fv :: fvs) ++ back
          = before ++ toBytes fv.1.size fv.2 ++ (rest ++ back) := by
        simp only [before, rest, imageFrom, List.append_assoc]
      have hrest := ih (fun fv' hm ↦ h fv' (List.mem_cons_of_mem _ hm))
        (before ++ toBytes fv.1.size fv.2) (by rw [List.length_append, hbefore, length_toBytes])
      rw [List.append_assoc _ _ back] at hrest
      rw [hsplit, List.map_cons, offsetsFrom, List.zipWith_cons_cons, hrest,
        readAt_append hbefore hfits, List.map_cons]

/-- A record's image gives the record's values back, whatever follows it. -/
theorem parse_image_append (gap : BitVec 8) {fvs : List (Field × ℕ)} (h : ∀ fv ∈ fvs, Fits fv)
    (back : List (BitVec 8)) :
    parse (fvs.map Prod.fst) (image gap fvs ++ back) = fvs.map Prod.snd :=
  zipWith_readAt_imageFrom gap h [] back rfl

/-- A record's image gives the record's values back. -/
theorem parse_image (gap : BitVec 8) {fvs : List (Field × ℕ)} (h : ∀ fv ∈ fvs, Fits fv) :
    parse (fvs.map Prod.fst) (image gap fvs) = fvs.map Prod.snd := by
  have := parse_image_append gap h []
  rwa [List.append_nil] at this

/-- Two declarations of a record whose fields have the same sizes and begin at the same places read
the same values. -/
theorem parse_congr {fs fs' : List Field} (hsize : fs.map Field.size = fs'.map Field.size)
    (hoffset : offsets fs = offsets fs') (bs : List (BitVec 8)) : parse fs bs = parse fs' bs := by
  have hmap : ∀ gs : List Field, parse gs bs
      = List.zipWith (fun n o ↦ readAt bs n o) (gs.map Field.size) (offsets gs) := by
    intro gs
    rw [parse, List.zipWith_map_left]
  rw [hmap, hmap, hsize, hoffset]

/-! ## Storing into a buffer -/

/-- Overwrite the bytes at offset `o`. -/
def store (bs : List (BitVec 8)) (o : ℕ) (w : List (BitVec 8)) : List (BitVec 8) :=
  bs.take o ++ w ++ bs.drop (o + w.length)

variable {bs : List (BitVec 8)} {o : ℕ} {w w' : List (BitVec 8)}

/-- A store inside a buffer keeps its length. -/
theorem length_store (h : o + w.length ≤ bs.length) : (store bs o w).length = bs.length := by
  simp only [store, List.length_append, List.length_take, List.length_drop]
  omega

/-- Two stores side by side are one. -/
theorem store_append {p : ℕ} (hp : o + w.length = p) (h : p ≤ bs.length) :
    store (store bs o w) p w' = store bs o (w ++ w') := by
  subst hp
  have hfront : (bs.take o ++ w).length = o + w.length := by
    rw [List.length_append, List.length_take_of_le (by omega)]
  have htake : (store bs o w).take (o + w.length) = bs.take o ++ w := List.take_left' hfront
  have hdrop : (store bs o w).drop (o + w.length + w'.length)
      = bs.drop (o + (w ++ w').length) := by
    rw [← List.drop_drop, store, List.drop_left' hfront, List.drop_drop, List.length_append,
      Nat.add_assoc]
  rw [store, htake, hdrop, store, List.append_assoc (bs.take o)]

/-- A later store in front of one is one with it. -/
theorem store_before (h : w'.length = o) (hlen : o ≤ bs.length) :
    store (store bs o w) 0 w' = store bs 0 (w' ++ w) := by
  have hfront : (bs.take o).length = o := List.length_take_of_le hlen
  have hdrop : (store bs o w).drop (0 + w'.length) = w ++ bs.drop (o + w.length) := by
    rw [store, List.append_assoc, Nat.zero_add, h, List.drop_left' hfront]
  rw [store, hdrop]
  show _ = bs.take 0 ++ (w' ++ w) ++ bs.drop (0 + (w' ++ w).length)
  rw [List.length_append, h]
  simp only [List.take_zero, List.nil_append, Nat.zero_add, List.append_assoc]

/-- A store over as many bytes replaces them. -/
theorem store_middle {front back : List (BitVec 8)} (ho : front.length = o)
    (hlength : w.length = w'.length) : store (front ++ w ++ back) o w' = front ++ w' ++ back := by
  have htake : (front ++ w ++ back).take o = front := by
    rw [List.append_assoc, List.take_left' ho]
  have hdrop : (front ++ w ++ back).drop (o + w'.length) = back :=
    List.drop_left' (by rw [List.length_append, ho, hlength])
  rw [store, htake, hdrop]

theorem store_imageFrom (gap : BitVec 8) {fvs : List (Field × ℕ)} (h : ∀ fv ∈ fvs, Fits fv)
    (front back : List (BitVec 8)) {k : ℕ} {fv : Field × ℕ} (hk : fvs[k]? = some fv) (v : ℕ)
    (ho : front.length = o) :
    store (front ++ imageFrom gap o fvs ++ back)
        ((offsetsFrom o (fvs.map Prod.fst)).getD k 0) (toBytes fv.1.size v) =
      front ++ imageFrom gap o (fvs.set k (fv.1, v)) ++ back := by
  induction fvs generalizing front o k with
  | nil => cases hk
  | cons first rest ih =>
      have hle := le_alignUp (h first List.mem_cons_self).1 o
      let before := front ++ List.replicate (alignUp first.1.align o - o) gap
      have hbefore : before.length = alignUp first.1.align o := by
        simp only [before, List.length_append, List.length_replicate, ho]
        omega
      -- the image is what stands before the first field, the field, and the rest
      have hsplit (x : ℕ) (tail : List (Field × ℕ)) :
          front ++ imageFrom gap o ((first.1, x) :: tail) =
            before ++ toBytes first.1.size x
              ++ imageFrom gap (alignUp first.1.align o + first.1.size) tail := by
        simp only [before, imageFrom, List.append_assoc]
      cases k with
      | zero =>
          cases hk
          rw [hsplit, List.set_cons_zero, hsplit, List.append_assoc _ _ back,
            List.append_assoc _ _ back]
          exact store_middle hbefore (by rw [length_toBytes, length_toBytes])
      | succ k =>
          have hrest := ih (fun fv' hm ↦ h fv' (List.mem_cons_of_mem _ hm))
            (before ++ toBytes first.1.size first.2) hk
            (by rw [List.length_append, hbefore, length_toBytes])
          rw [hsplit, List.set_cons_succ, hsplit]
          exact hrest

/-- An assignment to a field changes its value in the image of the record, and nothing else. -/
theorem store_image (gap : BitVec 8) {fvs : List (Field × ℕ)} (h : ∀ fv ∈ fvs, Fits fv)
    (back : List (BitVec 8)) {k : ℕ} {fv : Field × ℕ} (hk : fvs[k]? = some fv) (v : ℕ) :
    store (image gap fvs ++ back) ((offsets (fvs.map Prod.fst)).getD k 0) (toBytes fv.1.size v) =
      image gap (fvs.set k (fv.1, v)) ++ back :=
  store_imageFrom gap h [] back hk v rfl

end RecordLayout
