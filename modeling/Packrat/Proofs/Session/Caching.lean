import Packrat.Proofs.Meaning.Caching
import Packrat.Proofs.Session.Invoking

/-! Runs with a cache. Every entry keeps what its rule means at the place of its key, so an answer from the
cache is what the invocation means. Only what ends the parse may be missed. -/
namespace Packrat.Session

variable {env : Setup} {rules : Rules} {origin : Nat} {task : Task} {first : Session}
  {invoked : String × String → Prop} {table : String → Body} {see : Recovery → Recovery}
  {noted : MemoKey → List String → Prop}

def Remembers (env : Setup) (table : String → Body) (see : Recovery → Recovery)
    (noted : MemoKey → List String → Prop) (key : MemoKey) (memo : Memo) : Prop :=
  ∃ height p path, p.Stands env ∧ p.key key.rule = key ∧ noted key path ∧
    memo.Records env see path (env.meaning.free table height key.rule p 0)

theorem Remembers.recordsHere {name : String} {s : Session} {memo : Memo} (settled : s.Settled env)
    (h : Remembers env table see noted (MemoKey.of name s.state) memo) :
    ∃ height path, noted (MemoKey.of name s.state) path ∧
      memo.Records env see path (env.meaning.free table height name s.place 0) := by
  obtain ⟨height, p, path, stands, key, noted, records⟩ := h
  simp only [Place.key, MemoKey.of, MemoKey.mk.injEq] at key
  rw [stands.onePlace settled.stands key.2.1 key.2.2.1 key.2.2.2] at records
  exact ⟨height, path, noted, records⟩

theorem cachedAccounts (whole : NoPairs env.source) (denote : rules.Denote invoked table)
    (noting : ∀ {name s}, Runs env rules origin task first name s → noted (MemoKey.of name s.state) s.path)
    (alike : ∀ {name s memo path o}, Answers env rules origin task first name s memo →
      noted (MemoKey.of name s.state) path → memo.Records env see path o →
      SeenAlike env see path s.path o) :
    Accounts env rules origin task first ⟨see, Remembers env table see noted⟩
      (fun around o => ∃ height, env.meaning.Excused (Option.some env.config.maxErrors) table height around o)
        invoked where
  within := denote.within
  refused := fun _ {_ _ _} _ _ => ⟨0, .inl ⟨nofun, rfl⟩⟩
  outside := by
    intro around depth c s asks halts ⟨height, excused⟩
    by_cases ends : ∃ k, ¬ (env.meaning.free table k c.1 s.place 0).Halts
    · obtain ⟨k, ends⟩ := ends
      rcases (env.meaningLawful whole).freeGuarded denote (Option.some env.config.maxErrors) k asks.called asks.deep
        asks.ready.settled.stands asks.ready.inside 0 s.recoveries.length ends with same | ⟨_, excused⟩
      · rw [meant, same] at halts
        exact absurd halts ends
      · exact ⟨k, excused⟩
    · exact ⟨height, excused.outsideOpened fun k _ => Classical.not_not.mp fun end' => ends ⟨k, end'⟩⟩
  store := by
    intro around depth c s asks enters miss memo records
    have deep : env.config.maxRuleDepth ≤ depth + (env.meaning.stack around).length := by
      rw [Semantics.stack, List.length_map]
      exact asks.deep
    rcases (env.meaningLawful whole).agreeGuarded denote
      (Option.some env.config.maxErrors) depth deep asks.called s.place
      asks.ready.settled.stands (.refl _) s.recoveries.length 0 records.outcomeEnds with same | ⟨_, none⟩
    · refine ⟨depth, s.place, s.path, asks.ready.settled.stands, rfl, noting ⟨_, _, asks.reached, enters, miss⟩, ?_⟩
      rw [show (MemoKey.of c.1 s.state).rule = c.1 from rfl, same]
      exact records
    · exact none.elim
  hit := by
    intro around depth c s asks enters memo found
    obtain ⟨memoize, member⟩ := rememberedMem found
    obtain ⟨height, path, noted, records⟩ := Remembers.recordsHere asks.ready.settled
      (asks.ready.known memoize _ member)
    rcases (env.meaningLawful whole).freeGuarded denote (Option.some env.config.maxErrors) height asks.called asks.deep
      asks.ready.settled.stands asks.ready.inside 0 s.recoveries.length records.outcomeEnds with same | ⟨halts, excused⟩
    · refine .inr ⟨path, ?_, ?_⟩
      · rw [meant, same]
        exact records
      · rw [meant, same]
        exact alike ⟨_, _, asks.reached, enters, found⟩ noted records
    · exact .inl ⟨halts, height, excused⟩

end Packrat.Session
