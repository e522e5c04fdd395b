import Mathlib.Data.List.Forall2
import Mathlib.Data.List.Nodup
import Packrat.Proofs.Failure
import Packrat.Proofs.Lexing.Choice

/-! Names and kinds. The distinct names of a list of definitions are numbered in the order in which they are
first declared. The last number belongs to the characters that no definition matches. -/
namespace Packrat

theorem bindOkIff {ε α β : Type} {x : Except ε α} {f : α → Except ε β} {b : β} :
    x >>= f = .ok b ↔ ∃ a, x = .ok a ∧ f a = .ok b := by
  cases x <;> simp [bind, Except.bind]

theorem mapMOkIff {ε α β : Type} {f : α → Except ε β} {members : List α} {made : List β} :
    members.mapM f = .ok made ↔ List.Forall₂ (fun a b => f a = .ok b) members made := by
  induction members generalizing made with
  | nil =>
    rw [List.mapM_nil, List.forall₂_nil_left_iff]
    exact ⟨fun same => (Except.ok.inj same).symm, fun same => congrArg _ same.symm⟩
  | cons a rest ih =>
    rw [List.mapM_cons, List.forall₂_cons_left_iff]
    simp only [bindOkIff, ih]
    constructor
    · rintro ⟨b, first, more, later, same⟩
      exact ⟨b, more, first, later, (Except.ok.inj same).symm⟩
    · rintro ⟨b, more, first, later, rfl⟩
      exact ⟨b, first, more, later, rfl⟩

theorem forall₂Source {α β : Type} {R : α → β → Prop} {members : List α} {made : List β}
    (all : List.Forall₂ R members made) {b : β} (member : b ∈ made) : ∃ a ∈ members, R a b := by
  induction all with
  | nil => exact nomatch member
  | @cons a _ _ _ first later ih =>
    rcases List.mem_cons.mp member with rfl | inside
    · exact ⟨a, List.mem_cons_self, first⟩
    · obtain ⟨a', member, holds⟩ := ih inside
      exact ⟨a', List.mem_cons_of_mem _ member, holds⟩

theorem forall₂Made {α β : Type} {R : α → β → Prop} {members : List α} (each : ∀ a ∈ members, ∃ b, R a b) :
    ∃ made, List.Forall₂ R members made := by
  induction members with
  | nil => exact ⟨[], .nil⟩
  | cons a rest ih =>
    rw [List.forall_mem_cons] at each
    obtain ⟨b, first⟩ := each.1
    obtain ⟨made, later⟩ := ih each.2
    exact ⟨b :: made, .cons first later⟩

def declared (definitions : List Definition) : List String := addNames [] (definitions.map (·.name))

theorem memDeclared {definitions : List Definition} {name : String} :
    name ∈ declared definitions ↔ ∃ d ∈ definitions, d.name = name := by
  simp [declared, memAddNames]

theorem addNamesLength (names more : List String) : names.length ≤ (addNames names more).length := by
  induction more generalizing names with
  | nil => exact Nat.le_refl _
  | cons name more ih =>
    rw [addNamesCons]
    split
    · exact ih names
    · refine Nat.le_trans ?_ (ih _)
      simp

theorem addNamesNodup {names more : List String} (distinct : (names ++ more).Nodup) :
    addNames names more = names ++ more := by
  induction more generalizing names with
  | nil => exact (List.append_nil _).symm
  | cons name more ih =>
    have fresh : name ∉ names := fun present =>
      (List.nodup_append.mp distinct).2.2 name present name List.mem_cons_self rfl
    rw [List.append_cons] at distinct ⊢
    rw [addNamesCons, if_neg (mt List.contains_iff_mem.mp fresh), ih distinct]

def Definition.Nameable (d : Definition) : Prop := ¬ (d.name.isEmpty || d.name.toList.contains ',') = true

namespace Kinds

structure Numbers (k : Kinds) (names : List String) : Prop where
  ids : ∀ (name : String) (kind : Kind), k.ids[name]? = some kind ↔ names[kind]? = some name
  listed : k.names.toList = names
  few : names.length ≤ limit

namespace Numbers

variable {k : Kinds} {names : List String} {name : String}

theorem sizeOfNames (h : k.Numbers names) : k.names.size = names.length := by
  rw [← h.listed, Array.length_toList]

theorem containsIff (h : k.Numbers names) : k.ids.contains name ↔ name ∈ names := by
  rw [Std.TreeMap.contains_eq_isSome_getElem?, Option.isSome_iff_exists, List.mem_iff_getElem?]
  exact exists_congr (h.ids name)

theorem ofNone : ({} : Kinds).Numbers [] :=
  ⟨fun name kind => by simp, rfl, Nat.zero_le _⟩

theorem afterAdd (h : k.Numbers names) (fresh : name ∉ names) (room : names.length < limit) :
    (k.add name).Numbers (names ++ [name]) where
  listed := by rw [Kinds.add, Array.toList_push, h.listed]
  ids := by
    intro other kind
    rw [Kinds.add, Std.TreeMap.getElem?_insert, h.sizeOfNames]
    simp only [Std.LawfulEqCmp.compare_eq_iff_eq]
    by_cases same : name = other
    · subst same
      rw [if_pos rfl, Option.some.injEq]
      constructor
      · rintro rfl
        simp
      · intro found
        by_contra apart
        rcases Nat.lt_trichotomy kind names.length with inside | rfl | beyond
        · rw [List.getElem?_append_left inside] at found
          exact fresh (List.mem_of_getElem? found)
        · exact apart rfl
        · rw [List.getElem?_eq_none (by rw [List.length_append]; exact beyond)] at found
          exact nomatch found
    · rw [if_neg same, h.ids]
      rcases Nat.lt_or_ge kind names.length with inside | beyond
      · rw [List.getElem?_append_left inside]
      · rw [List.getElem?_eq_none beyond, List.getElem?_append_right beyond]
        cases kind - names.length <;> simp [same]
  few := by
    rw [List.length_append]
    exact room

end Numbers

theorem assignNumbers {definitions : List Definition} {k k' : Kinds} {names : List String}
    (assigned : assign definitions k = .ok k') (h : k.Numbers names) :
    k'.Numbers (addNames names (definitions.map (·.name))) := by
  induction definitions generalizing k names with
  | nil =>
    cases assigned
    exact h
  | cons d rest ih =>
    rw [assign] at assigned
    rw [List.map_cons, addNamesCons]
    split at assigned
    · exact nomatch assigned
    · split at assigned
      · rename_i known
        rw [if_pos (List.contains_iff_mem.mpr (h.containsIff.mp known))]
        exact ih assigned h
      · rename_i unknown
        have fresh : d.name ∉ names := fun present => unknown (h.containsIff.mpr present)
        rw [if_neg (mt List.contains_iff_mem.mp fresh)]
        split at assigned
        · rename_i room
          exact ih assigned (h.afterAdd fresh (h.sizeOfNames ▸ room))
        · exact nomatch assigned

theorem assignAccepts {definitions : List Definition} {k : Kinds} {names : List String}
    (nameable : ∀ d ∈ definitions, d.Nameable) (h : k.Numbers names)
    (few : (addNames names (definitions.map (·.name))).length ≤ limit) : ∃ k', assign definitions k = .ok k' := by
  induction definitions generalizing k names with
  | nil => exact ⟨k, rfl⟩
  | cons d rest ih =>
    rw [List.forall_mem_cons] at nameable
    rw [List.map_cons, addNamesCons] at few
    rw [assign, if_neg nameable.1]
    by_cases known : k.ids.contains d.name
    · rw [if_pos (List.contains_iff_mem.mpr (h.containsIff.mp known))] at few
      rw [if_pos known]
      exact ih nameable.2 h few
    · have fresh : d.name ∉ names := fun present => known (h.containsIff.mpr present)
      rw [if_neg (mt List.contains_iff_mem.mp fresh)] at few
      have room : names.length < limit := by
        have := addNamesLength (names ++ [d.name]) (rest.map (·.name))
        rw [List.length_append, List.length_singleton] at this
        omega
      rw [if_neg known, if_pos (h.sizeOfNames ▸ room)]
      exact ih nameable.2 (h.afterAdd fresh room) few

end Kinds

def Definition.Mentions (d : Definition) (name : String) : Prop :=
  (∃ names, d.onlyAfter = some names ∧ name ∈ names) ∨ name ∈ d.notAfter

namespace Lexeme

variable {k : Kinds} {d : Definition} {e : Lexeme}

structure Resolves (k : Kinds) (d : Definition) (e : Lexeme) : Prop where
  definition : e.definition = d
  kind : k.ids[d.name]? = some e.kind
  onlyAfter : Option.Rel (List.Forall₂ fun name kind => k.ids[name]? = some kind) d.onlyAfter e.onlyAfter
  notAfter : List.Forall₂ (fun name kind => k.ids[name]? = some kind) d.notAfter e.notAfter

theorem resolveOkIff {name : String} {kind : Kind} : resolve k d name = .ok kind ↔ k.ids[name]? = some kind := by
  unfold resolve
  cases k.ids[name]? <;> simp

theorem resolveAllOkIff {names : List String} {kinds : List Kind} : names.mapM (resolve k d) = .ok kinds ↔
    List.Forall₂ (fun name kind => k.ids[name]? = some kind) names kinds := by
  simp only [mapMOkIff, resolveOkIff]

theorem resolvesOf (made : ofDefinition k d = .ok e) : Resolves k d e := by
  simp only [ofDefinition, bindOkIff] at made
  obtain ⟨matcher, _, refused, _, made⟩ := made
  cases after : d.onlyAfter with
  | none =>
    simp only [after, bindOkIff] at made
    obtain ⟨_, none, notAfter, apart, kind, named, same⟩ := made
    cases none
    cases same
    exact ⟨rfl, resolveOkIff.mp named, after ▸ .none, resolveAllOkIff.mp apart⟩
  | some names =>
    simp only [after, bindOkIff] at made
    obtain ⟨_, behind, notAfter, apart, kind, named, same⟩ := made
    cases same
    refine ⟨rfl, resolveOkIff.mp named, ?_, resolveAllOkIff.mp apart⟩
    cases resolved : names.mapM (resolve k d) with
    | error e =>
      rw [resolved] at behind
      exact nomatch behind
    | ok found =>
      rw [resolved] at behind
      cases behind
      exact after ▸ .some (resolveAllOkIff.mp resolved)

theorem ofLiteral {text : String} (shape : d.shape = .literal text) (filled : text.isEmpty = false)
    (free : d.notFollowedBy = none) (named : ∃ kind : Kind, k.ids[d.name]? = some kind)
    (known : ∀ name, d.Mentions name → ∃ kind : Kind, k.ids[name]? = some kind) : ∃ e, ofDefinition k d = .ok e := by
  have resolved : ∀ names : List String, (∀ name ∈ names, d.Mentions name) →
      ∃ kinds, names.mapM (resolve k d) = .ok kinds := by
    intro names mentioned
    obtain ⟨kinds, all⟩ := forall₂Made fun name member => known name (mentioned name member)
    exact ⟨kinds, resolveAllOkIff.mpr all⟩
  obtain ⟨kind, named⟩ := named
  obtain ⟨notAfter, apart⟩ := resolved d.notAfter fun name member => .inr member
  have matcher : matcherOf d = .ok (.literal text.toList) := by simp [matcherOf, shape, filled]
  have refused : lookaheadOf d = .ok none := by simp [lookaheadOf, free]
  cases after : d.onlyAfter with
  | none =>
    refine ⟨⟨kind, d, .literal text.toList, none, none, notAfter⟩, ?_⟩
    simp only [ofDefinition, matcher, refused, after, apart, resolveOkIff.mpr named]
    rfl
  | some names =>
    obtain ⟨onlyAfter, behind⟩ := resolved names fun name member => .inl ⟨names, after, member⟩
    refine ⟨⟨kind, d, .literal text.toList, none, some onlyAfter, notAfter⟩, ?_⟩
    simp only [ofDefinition, matcher, refused, after, behind, apart, resolveOkIff.mpr named]
    rfl

theorem Resolves.isAvailableUnmentioned {kind : Kind} (h : Resolves k d e)
    (apart : ∀ name, d.Mentions name → k.ids[name]? ≠ some kind) (ctx : Context) :
    e.isAvailable { ctx with prev := some kind } = e.isAvailable { ctx with prev := none } := by
  have unmentioned : ∀ {names : List String} {kinds : List Kind}, (∀ name ∈ names, d.Mentions name) →
      List.Forall₂ (fun name kind => k.ids[name]? = some kind) names kinds → kind ∉ kinds := by
    intro names kinds mentioned all member
    obtain ⟨name, member, named⟩ := forall₂Source all member
    exact apart name (mentioned name member) named
  have notAfter : kind ∉ e.notAfter := unmentioned (fun name member => .inr member) h.notAfter
  simp only [isAvailable, Option.any_some, Option.any_none]
  rw [Bool.eq_false_iff.mpr (mt List.contains_iff_mem.mp notAfter)]
  suffices onlyAfter : ∀ kinds, e.onlyAfter = some kinds → kind ∉ kinds by
    cases behind : e.onlyAfter with
    | none => rfl
    | some kinds => simp only [Bool.eq_false_iff.mpr (mt List.contains_iff_mem.mp (onlyAfter kinds behind))]
  intro kinds behind
  have related := h.onlyAfter
  rw [behind] at related
  generalize declared : d.onlyAfter = names at related
  cases related with
  | some all => exact unmentioned (fun name member => .inl ⟨_, declared, member⟩) all

end Lexeme

namespace Lexer

variable {definitions : List Definition} {lx : Lexer}

theorem ofDefinitionsOkIff : ofDefinitions definitions = .ok lx ↔ Kinds.assign definitions {} = .ok lx.kinds ∧
    List.Forall₂ (fun d e => Lexeme.ofDefinition lx.kinds d = .ok e) definitions lx.lexemes := by
  simp only [ofDefinitions, bindOkIff, ← mapMOkIff]
  constructor
  · rintro ⟨kinds, assigned, lexemes, made, same⟩
    cases same
    exact ⟨assigned, made⟩
  · rintro ⟨assigned, made⟩
    exact ⟨lx.kinds, assigned, lx.lexemes, made, rfl⟩

theorem kindsNumbered (made : ofDefinitions definitions = .ok lx) :
    lx.kinds.Numbers (declared definitions) ∧ List.Forall₂ (Lexeme.Resolves lx.kinds) definitions lx.lexemes := by
  obtain ⟨assigned, each⟩ := ofDefinitionsOkIff.mp made
  exact ⟨Kinds.assignNumbers assigned .ofNone, each.imp fun _ _ => Lexeme.resolvesOf⟩

theorem acceptsLiterals (nameable : ∀ d ∈ definitions, d.Nameable) (few : (declared definitions).length ≤ Kinds.limit)
    (literal : ∀ d ∈ definitions, d.notFollowedBy = none ∧ ∃ text, d.shape = .literal text ∧ text.isEmpty = false)
    (known : ∀ d ∈ definitions, ∀ name, d.Mentions name → ∃ other ∈ definitions, other.name = name) :
    ∃ lx, ofDefinitions definitions = .ok lx := by
  obtain ⟨kinds, assigned⟩ := Kinds.assignAccepts nameable .ofNone few
  have numbers : kinds.Numbers (declared definitions) := Kinds.assignNumbers assigned .ofNone
  have numbered : ∀ name, (∃ d ∈ definitions, d.name = name) → ∃ kind : Kind, kinds.ids[name]? = some kind := by
    intro name is
    obtain ⟨kind, place⟩ := List.mem_iff_getElem?.mp (memDeclared.mpr is)
    exact ⟨kind, (numbers.ids name kind).mpr place⟩
  have each : ∀ d ∈ definitions, ∃ e, Lexeme.ofDefinition kinds d = .ok e := by
    intro d member
    obtain ⟨free, text, shape, filled⟩ := literal d member
    exact Lexeme.ofLiteral shape filled free (numbered d.name ⟨d, member, rfl⟩) fun name mentioned =>
      numbered name (known d member name mentioned)
  obtain ⟨lexemes, all⟩ := forall₂Made each
  exact ⟨⟨lexemes, kinds⟩, ofDefinitionsOkIff.mpr ⟨assigned, all⟩⟩

theorem readTokenUnmentioned {kind : Kind} (same : ∀ e ∈ lx.lexemes, ∀ ctx : Context,
      e.isAvailable { ctx with prev := some kind } = e.isAvailable { ctx with prev := none })
    (source : List Char) (cursor : Cursor) (goal : Goal) :
    lx.readToken source cursor goal (some kind) = lx.readToken source cursor goal none := by
  have won : ∀ (rest : List Char) (atLineStart : Bool) (depth : Nat),
      lx.longestMatch rest ⟨goal, some kind, atLineStart, depth⟩ =
          lx.longestMatch rest ⟨goal, none, atLineStart, depth⟩ := by
    intro rest atLineStart depth
    unfold longestMatch
    refine List.foldl_ext _ _ _ fun best e member => ?_
    simp only [better, same e member ⟨goal, none, atLineStart, depth⟩]
  have read : ∀ (fuel : Nat) (rest : List Char) (cursor : Cursor) (broken : Bool),
      lx.readFrom goal (some kind) fuel rest cursor broken = lx.readFrom goal none fuel rest cursor broken := by
    intro fuel
    induction fuel with
    | zero => exact fun _ _ _ => rfl
    | succ fuel ih =>
      intro rest cursor broken
      cases rest with
      | nil => rfl
      | cons c rest => simp only [readFrom, won, ih]
  unfold readToken
  cases dropBytes? source cursor.offset with
  | none => rfl
  | some rest => exact read rest.length rest cursor false

theorem kindsFaithful (made : ofDefinitions definitions = .ok lx) :
    (∀ name, (lx.kindOf name).isSome = true ↔ ∃ d ∈ definitions, d.name = name) ∧
    (∀ name kind, lx.kindOf name = some kind ↔ lx.kindName kind = some name) ∧
    (∀ a b kind, lx.kindOf a = some kind → lx.kindOf b = some kind → a = b) ∧
    (lx.definitions = definitions ∧ ∀ e ∈ lx.lexemes, lx.kindOf e.definition.name = some e.kind) ∧
    (∀ name kind, lx.kindOf name = some kind → kind < (declared definitions).length) ∧
    (declared definitions).length ≤ Kinds.limit ∧
    ((∃ name, lx.kindOf name = some unrecognizedKind) ↔ (declared definitions).length = Kinds.limit) ∧
    ((∀ d ∈ definitions, ∀ name, d.Mentions name → lx.kindOf name ≠ some unrecognizedKind) →
      ∀ (s t : Session) cursor c source goal,
        t = s.commit (unrecognizedToken cursor c).1 (unrecognizedToken cursor c).2 →
        lx.readToken source t.state.cursor goal t.state.prev = lx.readToken source t.state.cursor goal none) := by
  obtain ⟨numbers, each⟩ := kindsNumbered made
  have place : ∀ name kind, lx.kindOf name = some kind ↔ (declared definitions)[kind]? = some name := numbers.ids
  have named : ∀ kind, lx.kindName kind = (declared definitions)[kind]? := by
    intro kind
    rw [← numbers.listed, Array.getElem?_toList]
    rfl
  have below : ∀ name kind, lx.kindOf name = some kind → kind < (declared definitions).length := by
    intro name kind has
    exact (List.getElem?_eq_some_iff.mp ((place name kind).mp has)).1
  refine ⟨fun name => ?_, fun name kind => ?_, fun a b kind hasA hasB => ?_, ⟨?_, fun e member => ?_⟩, below,
    numbers.few, ?_, ?_⟩
  · rw [← memDeclared, Option.isSome_iff_exists, List.mem_iff_getElem?]
    exact exists_congr (place name)
  · rw [place, named]
  · rw [place] at hasA hasB
    exact Option.some.inj (hasA.symm.trans hasB)
  · have same : List.Forall₂ Eq definitions (lx.lexemes.map (·.definition)) :=
      List.forall₂_map_right_iff.mpr (each.imp fun _ _ resolves => resolves.definition.symm)
    rw [List.forall₂_eq_eq_eq] at same
    exact same.symm
  · obtain ⟨d, _, resolves⟩ := forall₂Source each member
    rw [resolves.definition]
    exact resolves.kind
  · constructor
    · rintro ⟨name, has⟩
      exact Nat.le_antisymm numbers.few (below name _ has)
    · intro full
      have last : unrecognizedKind < (declared definitions).length := by
        rw [full]
        decide
      exact ⟨_, (place _ _).mpr (List.getElem?_eq_getElem last)⟩
  · rintro apart s t cursor c source goal rfl
    refine readTokenUnmentioned (fun e member ctx => ?_) source _ goal
    obtain ⟨d, member, resolves⟩ := forall₂Source each member
    exact resolves.isAvailableUnmentioned (apart d member) ctx

namespace Sample

def following : List Definition :=
  [{ name := "a", shape := .literal "a" }, { name := "b", shape := .literal "b", onlyAfter := some ["a"] },
    { name := "b", shape := .literal "c", notAfter := ["b"] }]

def followers : Lexer := (Lexer.ofDefinitions following).toOption.get (by decide +kernel)

end Sample

theorem kindsFaithfulFollowing : Lexer.ofDefinitions Sample.following = .ok Sample.followers ∧
    Sample.followers.kindOf "b" = some 1 ∧ Sample.followers.kindName 1 = some "b" ∧
    (∀ d ∈ Sample.following, ∀ name, d.Mentions name → Sample.followers.kindOf name ≠ some unrecognizedKind) ∧
    ∀ cursor c, Sample.followers.readToken "@b".toList (unrecognizedToken cursor c).2 defaultGoal
      (some unrecognizedKind) =
      Sample.followers.readToken "@b".toList (unrecognizedToken cursor c).2 defaultGoal none := by
  have made : Lexer.ofDefinitions Sample.following = .ok Sample.followers := okOfToOption _
  obtain ⟨_, paired, _, _, below, _, _, behind⟩ := kindsFaithful made
  have named : Sample.followers.kindName 1 = some "b" := by decide +kernel
  have apart : ∀ d ∈ Sample.following, ∀ name, d.Mentions name →
      Sample.followers.kindOf name ≠ some unrecognizedKind := by
    intro d _ name _ given
    exact absurd (below name _ given) (by decide +kernel)
  refine ⟨made, (paired "b" 1).mpr named, named, apart, fun cursor c => ?_⟩
  exact behind apart { memo := .ofCapacity 1 } _ cursor c "@b".toList defaultGoal rfl

namespace Sample

def numbered (i : Nat) : Definition := { name := "n" ++ toString i, shape := .literal ("n" ++ toString i) }

theorem numberedName (i : Nat) : (numbered i).name.toList = 'n' :: Nat.toDigits 10 i := by
  show ("n" ++ i.repr).toList = _
  rw [String.toList_append, Nat.toList_repr]
  rfl

theorem numberedInjective {i j : Nat} (same : (numbered i).name = (numbered j).name) : i = j := by
  have chars := congrArg String.toList same
  rw [numberedName, numberedName] at chars
  have digits := congrArg (Nat.ofDigitChars 10 · 0) (List.cons.inj chars).2
  simpa using digits

theorem numberedFilled (i : Nat) : (numbered i).name.isEmpty = false := by
  rw [Bool.eq_false_iff, ne_eq, String.isEmpty_iff]
  intro none
  exact nomatch (numberedName i).symm.trans (congrArg String.toList none)

theorem numberedNameable (i : Nat) : (numbered i).Nameable := by
  have spelled : (numbered i).name.toList.contains ',' = false := by
    rw [Bool.eq_false_iff, ne_eq, List.contains_iff_mem, numberedName, List.mem_cons]
    rintro (none | digit)
    · exact absurd none (by decide)
    · exact absurd (Nat.isDigit_of_mem_toDigits (by decide) (by decide) digit) (by decide)
  rw [Definition.Nameable, numberedFilled, spelled]
  decide

def q : Definition := { name := "q", shape := .literal "q", onlyAfter := some ["z"] }

def z : Definition := { name := "z", shape := .literal "z" }

def crowd (n : Nat) : List Definition := (List.range n).map numbered ++ [q, z]

theorem memCrowd {n : Nat} {d : Definition} (member : d ∈ crowd n) : (∃ i, d = numbered i) ∨ d = q ∨ d = z := by
  rcases List.mem_append.mp member with first | last
  · obtain ⟨i, _, rfl⟩ := List.mem_map.mp first
    exact .inl ⟨i, rfl⟩
  · exact .inr (by simpa using last)

theorem crowdNodup (n : Nat) : ((crowd n).map (·.name)).Nodup := by
  have apart : ∀ i, (numbered i).name ≠ "q" ∧ (numbered i).name ≠ "z" := by
    intro i
    constructor <;>
    · intro same
      have chars := (numberedName i).symm.trans (congrArg String.toList same)
      exact absurd (List.cons.inj chars).1 (by decide)
  rw [crowd, List.map_append, List.map_map, List.nodup_append]
  refine ⟨List.Nodup.map (fun _ _ same => numberedInjective same) List.nodup_range, by decide, ?_⟩
  intro name first other last
  obtain ⟨i, _, rfl⟩ := List.mem_map.mp first
  rintro rfl
  have both : (numbered i).name = "q" ∨ (numbered i).name = "z" := by simpa [q, z] using last
  exact both.elim (apart i).1 (apart i).2

theorem declaredCrowd (n : Nat) : declared (crowd n) = (List.range n).map (fun i => (numbered i).name) ++
    ["q", "z"] := by
  rw [declared, addNamesNodup (crowdNodup n)]
  simp [crowd, q, z]

theorem crowdMentions {n : Nat} {d : Definition} (member : d ∈ crowd n) {name : String} (mentioned : d.Mentions name) :
    name = "z" := by
  rcases memCrowd member with ⟨i, rfl⟩ | rfl | rfl <;> rcases mentioned with ⟨names, behind, inside⟩ | inside
  · exact nomatch behind
  · exact nomatch inside
  · cases behind
    exact List.mem_singleton.mp inside
  · exact nomatch inside
  · exact nomatch behind
  · exact nomatch inside

theorem crowdAccepted {n : Nat} (few : n + 2 ≤ Kinds.limit) : ∃ lx, Lexer.ofDefinitions (crowd n) = .ok lx := by
  refine acceptsLiterals (fun d member => ?_) ?_ (fun d member => ?_) fun d member name mentioned => ?_
  · rcases memCrowd member with ⟨i, rfl⟩ | rfl | rfl
    · exact numberedNameable i
    · unfold Definition.Nameable
      decide
    · unfold Definition.Nameable
      decide
  · rw [declaredCrowd]
    simpa using few
  · rcases memCrowd member with ⟨i, rfl⟩ | rfl | rfl
    · refine ⟨rfl, _, rfl, ?_⟩
      exact numberedFilled i
    · exact ⟨rfl, _, rfl, by decide⟩
    · exact ⟨rfl, _, rfl, by decide⟩
  · exact ⟨z, List.mem_append_right _ (by simp), (crowdMentions member mentioned).symm⟩

end Sample

theorem kindsConfusedWhenCrowded : ∃ lx, Lexer.ofDefinitions (Sample.crowd 65534) = .ok lx ∧
    lx.kindOf "z" = some unrecognizedKind ∧
    ∃ e ∈ lx.lexemes, e.definition = Sample.q ∧ e.isAvailable ⟨defaultGoal, some unrecognizedKind, false, 0⟩ = true ∧
      e.isAvailable ⟨defaultGoal, none, false, 0⟩ = false := by
  obtain ⟨lx, made⟩ := Sample.crowdAccepted (n := 65534) (by decide)
  obtain ⟨numbers, each⟩ := kindsNumbered made
  have last : lx.kindOf "z" = some unrecognizedKind := by
    refine (numbers.ids "z" unrecognizedKind).mpr ?_
    rw [Sample.declaredCrowd, List.getElem?_append_right (by simp [unrecognizedKind])]
    simp [unrecognizedKind]
  obtain ⟨e, member, resolves⟩ := forall₂Source each.flip
    (show Sample.q ∈ Sample.crowd 65534 from List.mem_append_right _ List.mem_cons_self)
  have behind : e.onlyAfter = some [unrecognizedKind] := by
    have related : Option.Rel _ (some ["z"]) e.onlyAfter := resolves.onlyAfter
    generalize e.onlyAfter = kinds at related
    cases related with
    | some all =>
      obtain ⟨kind, _, named, none, rfl⟩ := List.forall₂_cons_left_iff.mp all
      cases none
      cases last.symm.trans named
      rfl
  have free : e.notAfter = [] := List.forall₂_nil_left_iff.mp resolves.notAfter
  refine ⟨lx, made, last, e, member, resolves.definition, ?_, ?_⟩ <;>
  · simp only [Lexeme.isAvailable, resolves.definition, behind, free]
    decide

end Lexer
end Packrat
