import Packrat.Proofs.Lexing.Winner
import Packrat.Proofs.Reachable

/-! Which of the longest definitions wins: the first keyword, or the first of them all if none is a keyword.
With patterns held at the start of the text, what a definition matches stands there. -/
namespace Packrat

def First {α : Type} (members : List α) (holds : α → Prop) (a : α) : Prop :=
  ∃ before after, members = before ++ a :: after ∧ holds a ∧ ∀ b ∈ before, ¬ holds b

namespace First

variable {α : Type} {members more : List α} {holds : α → Prop} {a b : α}

theorem isMember (first : First members holds a) : a ∈ members := by
  obtain ⟨before, after, rfl, -, -⟩ := first
  exact List.mem_append_right _ List.mem_cons_self

theorem isHeld (first : First members holds a) : holds a := by
  obtain ⟨_, _, -, has, -⟩ := first
  exact has

theorem beforeMore (first : First members holds a) : First (members ++ more) holds a := by
  obtain ⟨before, after, rfl, has, none⟩ := first
  exact ⟨before, after ++ more, by rw [List.append_assoc, List.cons_append], has, none⟩

theorem whenLast (none : ∀ b ∈ members, ¬ holds b) (has : holds a) : First (members ++ [a]) holds a :=
  ⟨members, [], rfl, has, none⟩

theorem atMostOne (one : First members holds a) (other : First members holds b) : a = b := by
  obtain ⟨before, after, rfl, has, none⟩ := one
  obtain ⟨before', after', same, has', none'⟩ := other
  rcases List.append_eq_append_iff.mp same with ⟨between, rfl, tail⟩ | ⟨between, rfl, tail⟩
  · cases between with
    | nil => exact (List.cons.inj tail).1
    | cons c between =>
      cases (List.cons.inj tail).1
      exact absurd has (none' a (List.mem_append_right _ List.mem_cons_self))
  · cases between with
    | nil => exact (List.cons.inj tail).1.symm
    | cons c between =>
      cases (List.cons.inj tail).1
      exact absurd has' (none b (List.mem_append_right _ List.mem_cons_self))

theorem congr {holds' : α → Prop} (same : ∀ b ∈ members, holds b ↔ holds' b) (first : First members holds a) :
    First members holds' a := by
  obtain ⟨before, after, rfl, has, none⟩ := first
  exact ⟨before, after, rfl, (same a (List.mem_append_right _ List.mem_cons_self)).mp has,
    fun b member has' => none b member ((same b (List.mem_append_left _ member)).mpr has')⟩

end First

def Lexeme.Reserved (offers : Lexeme → Nat → Prop) (n : Nat) (e : Lexeme) : Prop :=
  e.definition.keyword = true ∧ offers e n

structure Foremost (lexemes : List Lexeme) (offers : Lexeme → Nat → Prop) (e : Lexeme) (n : Nat) : Prop where
  keyword : (∃ o ∈ lexemes, o.Reserved offers n) → First lexemes (Lexeme.Reserved offers n) e
  other : (¬ ∃ o ∈ lexemes, o.Reserved offers n) → First lexemes (offers · n) e

structure Chosen (lexemes : List Lexeme) (offers : Lexeme → Nat → Prop) (e : Lexeme) (n : Nat) : Prop where
  offered : offers e n
  longest : ∀ o ∈ lexemes, ∀ m, offers o m → m ≤ n
  foremost : Foremost lexemes offers e n

namespace Foremost

variable {lexemes : List Lexeme} {offers offers' : Lexeme → Nat → Prop} {e b : Lexeme} {n : Nat}

theorem isMember (foremost : Foremost lexemes offers e n) : e ∈ lexemes := by
  by_cases reserved : ∃ o ∈ lexemes, o.Reserved offers n
  · exact (foremost.keyword reserved).isMember
  · exact (foremost.other reserved).isMember

theorem atMostOne (one : Foremost lexemes offers e n) (other : Foremost lexemes offers b n) : e = b := by
  by_cases reserved : ∃ o ∈ lexemes, o.Reserved offers n
  · exact (one.keyword reserved).atMostOne (other.keyword reserved)
  · exact (one.other reserved).atMostOne (other.other reserved)

theorem congr (same : ∀ o ∈ lexemes, ∀ m, offers o m ↔ offers' o m) (foremost : Foremost lexemes offers e n) :
    Foremost lexemes offers' e n := by
  have reserved : ∀ o ∈ lexemes, o.Reserved offers n ↔ o.Reserved offers' n :=
    fun o member => and_congr_right fun _ => same o member n
  have some : (∃ o ∈ lexemes, o.Reserved offers n) ↔ ∃ o ∈ lexemes, o.Reserved offers' n :=
    exists_congr fun o => and_congr_right (reserved o)
  exact ⟨fun h => (foremost.keyword (some.mpr h)).congr reserved,
    fun h => (foremost.other fun h' => h (some.mp h')).congr fun o member => same o member n⟩

theorem whenLast (offered : offers e n) (noKeyword : ∀ o ∈ lexemes, ¬ o.Reserved offers n)
    (alone : e.definition.keyword = true ∨ ∀ o ∈ lexemes, ¬ offers o n) :
    Foremost (lexemes ++ [e]) offers e n := by
  constructor
  · rintro ⟨o, member, reserved⟩
    rcases List.mem_append.mp member with old | new
    · exact absurd reserved (noKeyword o old)
    · cases List.mem_singleton.mp new
      exact .whenLast noKeyword reserved
  · intro none
    have plain : e.definition.keyword ≠ true := fun keyword =>
      none ⟨e, List.mem_append_right _ List.mem_cons_self, keyword, offered⟩
    exact .whenLast (alone.resolve_left plain) offered

theorem beforeMore (foremost : Foremost lexemes offers b n)
    (kept : e.Reserved offers n → b.definition.keyword = true) (offered : offers b n) :
    Foremost (lexemes ++ [e]) offers b n := by
  constructor
  · rintro ⟨o, member, reserved⟩
    rcases List.mem_append.mp member with old | new
    · exact (foremost.keyword ⟨o, old, reserved⟩).beforeMore
    · cases List.mem_singleton.mp new
      exact (foremost.keyword ⟨b, foremost.isMember, kept reserved, offered⟩).beforeMore
  · intro none
    exact (foremost.other fun ⟨o, member, reserved⟩ => none ⟨o, List.mem_append_left _ member, reserved⟩).beforeMore

end Foremost

namespace Chosen

variable {lexemes : List Lexeme} {offers offers' : Lexeme → Nat → Prop} {e b : Lexeme} {m n : Nat}

theorem congr (same : ∀ o ∈ lexemes, ∀ m, offers o m ↔ offers' o m) (chosen : Chosen lexemes offers e n) :
    Chosen lexemes offers' e n :=
  ⟨(same e chosen.foremost.isMember n).mp chosen.offered,
    fun o member m offered => chosen.longest o member m ((same o member m).mpr offered),
    chosen.foremost.congr same⟩

theorem atMostOne (one : Chosen lexemes offers e n) (other : Chosen lexemes offers b m) : (e, n) = (b, m) := by
  have le := other.longest e one.foremost.isMember n one.offered
  have ge := one.longest b other.foremost.isMember m other.offered
  cases Nat.le_antisymm le ge
  rw [one.foremost.atMostOne other.foremost]

end Chosen

namespace Lexer

variable {lexemes : List Lexeme} {ctx : Context} {rest : List Char}

theorem betterCases {best : Option (Lexeme × Nat)} {x e : Lexeme} {n : Nat}
    (found : better ctx rest best x = some (e, n)) :
    (best = some (e, n) ∧ (x.Fits ctx rest n → x.definition.keyword = true → e.definition.keyword = true)) ∨
      (x = e ∧ e.Fits ctx rest n ∧ ∀ b m, best = some (b, m) →
        m < n ∨ m = n ∧ e.definition.keyword = true ∧ b.definition.keyword = false) := by
  unfold better at found
  by_cases available : x.isAvailable ctx = true
  · rw [if_pos available] at found
    cases matched : x.matchLength? rest with
    | none =>
      rw [matched] at found
      exact .inl ⟨found, fun fits => nomatch matched.symm.trans fits.matched⟩
    | some k =>
      have fits : x.Fits ctx rest k := ⟨available, matched⟩
      rw [matched] at found
      cases best with
      | none =>
        cases found
        exact .inr ⟨rfl, fits, fun b m none => nomatch none⟩
      | some winner =>
        obtain ⟨b, m⟩ := winner
        simp only [Bool.or_eq_true, decide_eq_true_eq, Bool.and_eq_true, beq_iff_eq, Bool.not_eq_true'] at found
        split at found
        · rename_i wins
          cases found
          refine .inr ⟨rfl, fits, ?_⟩
          rintro _ _ ⟨⟩
          exact wins.imp_right fun ⟨⟨equal, keyword⟩, plain⟩ => ⟨equal.symm, keyword, plain⟩
        · rename_i loses
          cases found
          refine .inl ⟨rfl, fun fits keyword => ?_⟩
          have equal : k = n := Option.some.inj (matched.symm.trans fits.matched)
          by_contra plain
          exact loses (.inr ⟨⟨equal, keyword⟩, Bool.eq_false_iff.mpr plain⟩)
  · rw [if_neg available] at found
    exact .inl ⟨found, fun fits => absurd fits.available available⟩

theorem foremostFold (lexemes : List Lexeme) {e : Lexeme} {n : Nat}
    (found : lexemes.foldl (better ctx rest) none = some (e, n)) :
    Foremost lexemes (·.Fits ctx rest ·) e n := by
  induction lexemes using List.reverseRecOn generalizing e n with
  | nil => exact nomatch found
  | append_singleton lexemes x ih =>
    have before := longestMatchLongest ⟨lexemes, {}⟩ rest ctx
    rw [longestMatch] at before
    rw [List.foldl_append] at found
    rcases betterCases found with ⟨kept, keyword⟩ | ⟨rfl, fits, outdone⟩
    · rw [kept] at before
      exact (ih kept).beforeMore (fun reserved => keyword reserved.2 reserved.1) before.2.1
    · cases best : lexemes.foldl (better ctx rest) none with
      | none =>
        rw [best] at before
        exact .whenLast fits (fun o member reserved => before o member n reserved.2)
          (.inr fun o member => before o member n)
      | some winner =>
        obtain ⟨b, m⟩ := winner
        rw [best] at before
        rcases outdone b m best with longer | ⟨rfl, keyword, plain⟩
        · have shorter : ∀ o ∈ lexemes, ¬ o.Fits ctx rest n := fun o member other =>
            absurd (before.2.2 o member n other) (Nat.not_le.mpr longer)
          exact .whenLast fits (fun o member reserved => shorter o member reserved.2) (.inr shorter)
        · refine .whenLast fits (fun o member reserved => ?_) (.inl keyword)
          exact nomatch (((ih best).keyword ⟨o, member, reserved⟩).isHeld.1).symm.trans plain

theorem longestMatchFits (lx : Lexer) {e : Lexeme} {n : Nat} (found : lx.longestMatch rest ctx = some (e, n)) :
    Chosen lx.lexemes (·.Fits ctx rest ·) e n := by
  have longest := lx.longestMatchLongest rest ctx
  rw [found] at longest
  exact ⟨longest.2.1, longest.2.2, foremostFold lx.lexemes found⟩

theorem longestMatchNone (lx : Lexer) (lost : lx.longestMatch rest ctx = none) :
    ∀ e ∈ lx.lexemes, ∀ n, ¬ e.Fits ctx rest n := by
  have longest := lx.longestMatchLongest rest ctx
  rwa [lost] at longest

end Lexer

def Pattern.startLength? (p : Pattern) (text : List Char) : Option Nat :=
  { p.program with anchored := true : Program }.matchEnd? text

theorem Pattern.matchLengthAnchored {p : Pattern} (held : p.program.anchored = true) (text : List Char) :
    p.matchLength? text = p.startLength? text := by
  unfold matchLength? startLength?
  rw [← held]

namespace Lexeme

structure Available (e : Lexeme) (ctx : Context) : Prop where
  goal : ∀ goals, e.definition.goals = some goals → ctx.goal ∈ goals
  lineStart : e.definition.lineStart = true → ctx.atLineStart = true
  nested : e.definition.nesting = .continues ∨ e.definition.nesting = .closes → ctx.depth ≠ 0
  after : ∀ allowed, e.onlyAfter = some allowed → ∃ kind ∈ allowed, ctx.prev = some kind
  notAfter : ∀ kind ∈ e.notAfter, ctx.prev ≠ some kind

structure Prefixes (e : Lexeme) (rest : List Char) (n : Nat) : Prop where
  literal : ∀ text, e.matcher = .literal text → text <+: rest ∧ n = text.length
  pattern : ∀ p, e.matcher = .pattern p → p.startLength? rest = some n
  pos : 0 < n
  boundary : e.definition.keyword = true → ∀ c, (rest.drop n).head? = some c → Alphabet.isIdentifierPart c = false
  refused : ∀ p, e.notFollowedBy = some p → p.startLength? (rest.drop n) = none

def pattern? (e : Lexeme) : Option Pattern :=
  match e.matcher with
  | .literal _ => none
  | .pattern p => some p

def held (e : Lexeme) : Bool := e.pattern?.all (·.program.anchored) && e.notFollowedBy.all (·.program.anchored)

structure Offers (e : Lexeme) (ctx : Context) (rest : List Char) (n : Nat) : Prop where
  available : e.Available ctx
  matched : e.Prefixes rest n

variable {e : Lexeme} {ctx : Context} {rest : List Char} {n : Nat}

theorem isAvailableIff : e.isAvailable ctx = true ↔ e.Available ctx := by
  have goal : e.definition.availableIn ctx.goal = true ↔ ∀ goals, e.definition.goals = some goals →
      ctx.goal ∈ goals := by
    unfold Definition.availableIn
    cases e.definition.goals <;> simp
  have lineStart : (!e.definition.lineStart || ctx.atLineStart) = true ↔
      (e.definition.lineStart = true → ctx.atLineStart = true) := by
    cases e.definition.lineStart <;> simp
  have nested : (!(e.definition.nesting == .continues || e.definition.nesting == .closes) || ctx.depth != 0) = true ↔
      (e.definition.nesting = .continues ∨ e.definition.nesting = .closes → ctx.depth ≠ 0) := by
    cases e.definition.nesting <;> simp
  have after : ∀ allowed : List Kind, ctx.prev.any allowed.contains = true ↔ ∃ kind ∈ allowed, ctx.prev =
      some kind := by
    cases ctx.prev <;> simp
  have notAfter : (!(ctx.prev.any e.notAfter.contains)) = true ↔ ∀ kind ∈ e.notAfter, ctx.prev ≠ some kind := by
    cases ctx.prev <;> simp
    grind
  rw [isAvailable, Bool.and_eq_true, Bool.and_eq_true, Bool.and_eq_true, Bool.and_eq_true]
  constructor
  · rintro ⟨⟨⟨⟨inGoal, atStart⟩, deep⟩, follows⟩, apart⟩
    refine ⟨goal.mp inGoal, lineStart.mp atStart, nested.mp deep, fun allowed restricted => ?_, notAfter.mp apart⟩
    rw [restricted] at follows
    exact (after allowed).mp follows
  · intro available
    refine ⟨⟨⟨⟨goal.mpr available.goal, lineStart.mpr available.lineStart⟩, nested.mpr available.nested⟩, ?_⟩,
      notAfter.mpr available.notAfter⟩
    cases restricted : e.onlyAfter with
    | none => rfl
    | some allowed => exact (after allowed).mpr (available.after allowed restricted)

theorem patternSomeIff {p : Pattern} : e.pattern? = some p ↔ e.matcher = .pattern p := by
  unfold pattern?
  cases e.matcher <;> simp

theorem heldMatcher (held : e.held = true) {p : Pattern} (shape : e.matcher = .pattern p) :
    p.program.anchored = true := by
  rw [Lexeme.held, patternSomeIff.mpr shape, Bool.and_eq_true] at held
  exact held.1

theorem heldRefused (held : e.held = true) {p : Pattern} (refused : e.notFollowedBy = some p) :
    p.program.anchored = true := by
  rw [Lexeme.held, refused, Bool.and_eq_true] at held
  exact held.2

theorem rawLengthHeld (held : e.held = true) : e.rawLength? rest = some n ↔
    (∀ text, e.matcher = .literal text → text <+: rest ∧ n = text.length) ∧
    (∀ p, e.matcher = .pattern p → p.startLength? rest = some n) := by
  unfold rawLength?
  cases shape : e.matcher with
  | literal text => simp [eq_comm (a := n)]
  | pattern p => simp [Pattern.matchLengthAnchored (heldMatcher held shape)]

theorem refusedHeld (held : e.held = true) (after : List Char) : e.notFollowedBy.any (·.matches? after) = false ↔
    ∀ p, e.notFollowedBy = some p → p.startLength? after = none := by
  cases refused : e.notFollowedBy with
  | none => simp
  | some p => simp [Pattern.matches?, Pattern.matchLengthAnchored (heldRefused held refused)]

theorem matchLengthHeld (held : e.held = true) : e.matchLength? rest = some n ↔ e.Prefixes rest n := by
  have boundary : (e.definition.keyword && (rest.drop n).head?.any Alphabet.isIdentifierPart) = false ↔
      (e.definition.keyword = true → ∀ c, (rest.drop n).head? = some c → Alphabet.isIdentifierPart c = false) := by
    cases e.definition.keyword <;> cases (rest.drop n).head? <;> simp
  constructor
  · intro matched
    unfold matchLength? at matched
    cases raw : e.rawLength? rest with
    | none =>
      rw [raw] at matched
      exact nomatch matched
    | some m =>
      simp only [raw] at matched
      split at matched
      · exact nomatch matched
      · rename_i pos
        split at matched
        · exact nomatch matched
        · rename_i bounded
          split at matched
          · exact nomatch matched
          · rename_i apart
            cases matched
            obtain ⟨literal, pattern⟩ := (rawLengthHeld held).mp raw
            exact ⟨literal, pattern, Nat.pos_of_ne_zero pos, boundary.mp (Bool.eq_false_iff.mpr bounded),
              (refusedHeld held _).mp (Bool.eq_false_iff.mpr apart)⟩
  · rintro ⟨literal, pattern, pos, bounded, apart⟩
    have raw := (rawLengthHeld held).mpr ⟨literal, pattern⟩
    have bounded := boundary.mpr bounded
    have apart := (refusedHeld held _).mpr apart
    simp only [matchLength?, raw, if_neg (Nat.ne_of_gt pos), bounded, apart, Bool.false_eq_true, if_false]

theorem fitsHeld (held : e.held = true) : e.Fits ctx rest n ↔ e.Offers ctx rest n := by
  constructor
  · intro fits
    exact ⟨isAvailableIff.mp fits.available, (matchLengthHeld held).mp fits.matched⟩
  · intro offers
    exact ⟨isAvailableIff.mpr offers.available, (matchLengthHeld held).mpr offers.matched⟩

end Lexeme

namespace Lexer

theorem longestMatchChosen (lx : Lexer) (rest : List Char) (ctx : Context)
    (held : ∀ e ∈ lx.lexemes, e.held = true) :
    ((lx.longestMatch rest ctx).isSome = true ↔ ∃ e ∈ lx.lexemes, ∃ n, e.Offers ctx rest n) ∧
      ∀ e n, lx.longestMatch rest ctx = some (e, n) ↔ Chosen lx.lexemes (·.Offers ctx rest ·) e n := by
  have offers : ∀ e ∈ lx.lexemes, ∀ n, e.Fits ctx rest n ↔ e.Offers ctx rest n :=
    fun e member n => Lexeme.fitsHeld (held e member)
  cases found : lx.longestMatch rest ctx with
  | none =>
    have nothing : ∀ e ∈ lx.lexemes, ∀ n, ¬ e.Offers ctx rest n := fun e member n offered =>
      lx.longestMatchNone found e member n ((offers e member n).mpr offered)
    refine ⟨iff_of_false Bool.false_ne_true fun ⟨e, member, n, offered⟩ => nothing e member n offered, fun e n => ?_⟩
    exact iff_of_false (fun none => nomatch none) fun chosen => nothing e chosen.foremost.isMember n chosen.offered
  | some winner =>
    obtain ⟨e, n⟩ := winner
    have chosen := (lx.longestMatchFits found).congr offers
    refine ⟨iff_of_true rfl ⟨e, chosen.foremost.isMember, n, chosen.offered⟩, fun e' n' => ⟨?_, fun other => ?_⟩⟩
    · rintro ⟨⟩
      exact chosen
    · exact congrArg some (chosen.atMostOne other)

namespace Sample

def lineStart : Context := ⟨defaultGoal, none, true, 0⟩

def words : Lexer := (Lexer.ofDefinitions
  [{ name := "Word", shape := .pattern "l.t" }, { name := "Le", shape := .literal "le" },
    { name := "Let", shape := .literal "let", keyword := true, notFollowedBy := some "\\s*:" },
    { name := "Again", shape := .literal "let", keyword := true }]).toOption.get (by decide +kernel)

/- The group of the pattern is closed early, and its second branch is free to match further on. -/
def looseText : String := "a)|(?:b"

def loose : Lexer := (Lexer.ofDefinitions [{ name := "T", shape := .pattern looseText }]).toOption.get
    (by decide +kernel)

end Sample

theorem longestMatchChosenKeyword :
    (∀ e ∈ Sample.words.lexemes, e.held = true) ∧ ∃ e, e.definition.name = "Let" ∧
      Sample.words.longestMatch "let x".toList Sample.lineStart = some (e, 3) ∧
      Chosen Sample.words.lexemes (·.Offers Sample.lineStart "let x".toList ·) e 3 := by
  have held : ∀ e ∈ Sample.words.lexemes, e.held = true := by decide +kernel
  have won : (Sample.words.longestMatch "let x".toList Sample.lineStart).map
      (fun won => (won.1.definition.name, won.2)) =
      some ("Let", 3) := by decide +kernel
  obtain ⟨⟨e, n⟩, found, same⟩ := Option.map_eq_some_iff.mp won
  obtain ⟨named, rfl⟩ := Prod.mk.inj same
  exact ⟨held, e, named, found, ((longestMatchChosen _ _ _ held).2 e 3).mp found⟩

theorem longestMatchMissedLoose :
    ∃ lx, Lexer.ofDefinitions [{ name := "T", shape := .pattern Sample.looseText }] = .ok lx ∧
      (∃ e, lx.longestMatch "xb".toList Sample.lineStart = some (e, 2)) ∧
      ¬ ∃ e ∈ lx.lexemes, ∃ n, e.Offers Sample.lineStart "xb".toList n := by
  refine ⟨Sample.loose, okOfToOption _, ?_, ?_⟩
  · have won : (Sample.loose.longestMatch "xb".toList Sample.lineStart).map Prod.snd = some 2 := by decide +kernel
    obtain ⟨⟨e, n⟩, found, rfl⟩ := Option.map_eq_some_iff.mp won
    exact ⟨e, found⟩
  · rintro ⟨e, member, n, offered⟩
    have unread : ∀ e ∈ Sample.loose.lexemes, ∃ p, e.pattern? = some p ∧ p.startLength? "xb".toList = none := by
      have checked : ∀ e ∈ Sample.loose.lexemes, e.pattern?.map (·.startLength? "xb".toList) = some none := by
        decide +kernel
      exact fun e member => Option.map_eq_some_iff.mp (checked e member)
    obtain ⟨p, shape, none⟩ := unread e member
    exact nomatch none.symm.trans (offered.matched.pattern p (e.patternSomeIff.mp shape))

end Lexer
end Packrat
