import WordCompletion.Proofs.Like.Prefix
import WordCompletion.Proofs.Lookup.Tiers

/-! # The leading characters of a row

A row is meant to begin with the leading characters of the word that was typed, or of the symbol in the
primary tier, up to the case of ASCII letters. It does, unless the matcher reads one of these characters as
something else: a NUL ends what it compares, and it takes the replacement character and the two
noncharacters after it for one and the same.
-/

namespace WordCompletion

/-! ## Characters that the matcher reads as themselves -/

namespace Like

/-- The character is told apart from every other one but the other case of an ASCII letter. -/
def IsPlain (char : Char) : Prop :=
  char ≠ '\x00' ∧ (char.toNat < 0xFFFD ∨ 0xFFFF < char.toNat)

instance (char : Char) : Decidable (IsPlain char) :=
  inferInstanceAs (Decidable (_ ∧ _))

/-- Lowering never makes a replacement character of another one. -/
theorem eq_of_toLower_eq_replacement {char : Char} (lowered : char.toLower = Char.ofNat 0xFFFD) :
    char.toNat = 0xFFFD := by
  rw [toLower_eq] at lowered
  split_ifs at lowered with capital
  · have bound : char.toNat ≤ 90 := capital.2
    have valid : (char.toNat + 32).isValidChar := .inl (by omega)
    rw [show Char.ofNat (char.toNat + 32) = Char.ofNatAux (char.toNat + 32) valid from dif_pos valid] at lowered
    have codes : char.toNat + 32 = 0xFFFD := congrArg Char.toNat lowered
    omega
  · rw [lowered]
    rfl

/-- A plain character is the same to the matcher as the other case of its own only. -/
theorem toLower_eq_of_fold_eq {first second : Char} (plain : IsPlain first) (same : fold first = fold second) :
    first.toLower = second.toLower := by
  obtain ⟨_, outside⟩ := plain
  have kept : fold first = first.toLower := by
    apply if_neg
    omega
  unfold fold at same
  rw [← fold, kept] at same
  split_ifs at same with special
  · have code := eq_of_toLower_eq_replacement same
    omega
  · exact same

theorem SameFold.map_toLower {first second : List Char} (same : SameFold first second)
    (plain : ∀ char ∈ first, IsPlain char) : first.map Char.toLower = second.map Char.toLower := by
  induction first generalizing second with
  | nil =>
    obtain rfl : second = [] := List.eq_nil_of_length_eq_zero same.length_eq.symm
    rfl
  | cons char first ih =>
    cases second with
    | nil => exact absurd same.length_eq (by simp)
    | cons other second =>
      obtain ⟨head, tail⟩ := List.cons.inj same
      rw [List.map_cons, List.map_cons, toLower_eq_of_fold_eq (plain char (List.mem_cons_self ..)) head,
        ih tail fun later member => plain later (List.mem_cons_of_mem _ member)]

theorem beforeNul_prefix (chars : List Char) : beforeNul chars <+: chars :=
  List.takeWhile_prefix _

end Like

/-! ## Beginning like a typed text -/

/-- The word begins with the leading characters of a text, with as many of them as are asked for or else
with all, up to the case of ASCII letters. -/
def SharesStart (count : ℕ) (typed stored : String) : Prop :=
  let shared := min count typed.toList.length
  shared ≤ stored.toList.length ∧
    (typed.toList.take shared).map Char.toLower = (stored.toList.take shared).map Char.toLower

instance (count : ℕ) (typed stored : String) : Decidable (SharesStart count typed stored) :=
  inferInstanceAs (Decidable (_ ∧ _))

/-- The visible part of the word begins with the leading characters as the matcher reads them or, if there is
a NUL among these, it is what stands before the first one. -/
def ReadsStart (count : ℕ) (typed stored : String) : Prop :=
  let start := typed.toList.take count
  let visible := Like.beforeNul stored.toList
  ('\x00' ∉ start → start.length ≤ visible.length ∧ Like.SameFold start (visible.take start.length)) ∧
    ∀ front back, start = front ++ '\x00' :: back → '\x00' ∉ front →
      visible.length = front.length ∧ Like.SameFold front visible

/-- What the pattern of a text matches. -/
theorem readsStart_of_matchesText {count : ℕ} {typed stored : String}
    (matched : (Like.Pattern.ofString (Like.Pattern.startingWith typed count)).matchesText stored = true) :
    ReadsStart count typed stored := by
  constructor
  · intro clean
    rw [Like.Pattern.matchesText_eq_true_iff (Like.Pattern.pieces_startingWith clean),
      Like.instance_literals_anyRun_iff] at matched
    exact matched
  · intro front back split clean
    rw [Like.Pattern.matchesText_eq_true_iff (Like.Pattern.pieces_startingWith_nul split clean),
      Like.instance_literals_iff] at matched
    exact ⟨matched.length_eq.symm, matched⟩

/-- Plain leading characters are shared as they are. -/
theorem ReadsStart.sharesStart {count : ℕ} {typed stored : String} (reads : ReadsStart count typed stored)
    (plain : ∀ char ∈ typed.toList.take count, Like.IsPlain char) : SharesStart count typed stored := by
  have clean : '\x00' ∉ typed.toList.take count := fun member => (plain _ member).1 rfl
  obtain ⟨long, same⟩ := reads.1 clean
  obtain ⟨rest, whole⟩ := Like.beforeNul_prefix stored.toList
  have shared : (typed.toList.take count).length = min count typed.toList.length := List.length_take ..
  have start : typed.toList.take (min count typed.toList.length) = typed.toList.take count := by
    rw [← shared, List.length_take, List.take_eq_take_iff]
    omega
  have visible : stored.toList.take (min count typed.toList.length) =
      (Like.beforeNul stored.toList).take (min count typed.toList.length) := by
    conv_lhs => rw [← whole]
    rw [List.take_append_of_le_length (shared ▸ long)]
  refine ⟨?_, ?_⟩
  · rw [← shared, ← whole, List.length_append]
    omega
  · rw [start, visible, ← shared]
    exact same.map_toLower plain

namespace Request

variable {request : Request} {words : WordSet}

/-- A word that qualifies for a tier begins with the typed word as the matcher reads it or, in the primary
tier, with the symbol. -/
theorem readsStart_of_qualifies {tier : Tier} {stored : String} (qualified : request.qualifies tier stored = true) :
    ∃ typed, (typed = request.query.word ∨ (tier = .primary ∧ typed = request.query.sym)) ∧
      ReadsStart request.options.exactMatches.toNat typed stored := by
  cases tier with
  | backup => exact ⟨_, .inl rfl, readsStart_of_matchesText qualified⟩
  | primary =>
    obtain ⟨matched, _⟩ := Bool.and_eq_true_iff.mp qualified
    rcases Bool.or_eq_true_iff.mp matched with word | sym
    · exact ⟨_, .inl rfl, readsStart_of_matchesText word⟩
    · exact ⟨_, .inr ⟨rfl, rfl⟩, readsStart_of_matchesText sym⟩

/-- Each row of a valid lookup begins with the leading characters of the typed word or, in the primary tier,
of the symbol, as the matcher reads them. If they are plain, the row shares them up to the case of ASCII
letters. -/
theorem select_readsStart (answerable : request.Answerable) (words : WordSet) :
    ∃ rows, words.select request = (.ok rows, words) ∧ ∀ row ∈ rows, ∃ typed,
      (typed = request.query.word ∨ (row.tier = .primary ∧ typed = request.query.sym)) ∧
        ReadsStart request.options.exactMatches.toNat typed row.word ∧
          ((∀ char ∈ typed.toList.take request.options.exactMatches.toNat, Like.IsPlain char) →
            SharesStart request.options.exactMatches.toNat typed row.word) := by
  refine ⟨_, select_eq answerable words, fun row member => ?_⟩
  obtain ⟨tier, _, qualified⟩ := tier_of_mem_rows answerable row member
  obtain ⟨typed, source, reads⟩ := readsStart_of_qualifies qualified
  rw [← tier] at source
  exact ⟨typed, source, reads, reads.sharesStart⟩

/-- Two plain letters are shared by the row that they complete to. -/
theorem select_readsStart_fo : (complete "fo" "fo").Answerable ∧
    (WordSet.ofList ["Food", "bar"]).select (complete "fo" "fo") =
      (.ok [.primary "Food"], .ofList ["Food", "bar"]) ∧ SharesStart 2 "fo" "Food" := by
  have answerable : (complete "fo" "fo").Answerable := ⟨rfl, by decide, rfl⟩
  have selected : (WordSet.ofList ["Food", "bar"]).select (complete "fo" "fo") =
      (.ok [.primary "Food"], .ofList ["Food", "bar"]) := by decide +kernel
  obtain ⟨rows, found, starts⟩ := select_readsStart answerable (.ofList ["Food", "bar"])
  obtain rfl : [Match.primary "Food"] = rows := Except.ok.inj (Prod.mk.inj (selected.symm.trans found)).1
  obtain ⟨typed, source, _, shares⟩ := starts (.primary "Food") (List.mem_singleton_self _)
  obtain rfl : typed = "fo" := by rcases source with rfl | ⟨_, rfl⟩ <;> rfl
  have plain : ∀ char ∈ ['f', 'o'], Like.IsPlain char := by
    rw [List.forall_mem_cons, List.forall_mem_singleton]
    decide
  exact ⟨answerable, selected, shares plain⟩

/-- A request for the words that begin with two letters and a NUL. -/
def nulRequest : Request where
  options := { exactMatches := 3 }
  query := { word := "ab\x00", sym := "ab\x00" }

/-- The two letters alone are such a word to the matcher, although the third character is missing. -/
theorem not_sharesStart_nul : nulRequest.Answerable ∧
    (WordSet.ofList ["ab"]).select nulRequest = (.ok [.primary "ab"], .ofList ["ab"]) ∧
      ¬ SharesStart nulRequest.options.exactMatches.toNat nulRequest.query.word "ab" ∧
        ¬ SharesStart nulRequest.options.exactMatches.toNat nulRequest.query.sym "ab" := by
  have answerable : nulRequest.Answerable := ⟨rfl, by decide, rfl⟩
  exact ⟨answerable, by decide +kernel, by decide, by decide⟩

end Request

end WordCompletion
