import Mathlib.Data.List.Induction
import Mathlib.Data.List.Nodup

/-!
# Chains linked by a keyed hash

A chain is a list of contents; each content is tagged together with the tag
before it.  With an injective hash, a chain all of whose links were genuinely
made is a prefix of the genuine chain: nothing can be cut out, reordered or
spliced in.
-/

namespace ControlForge

namespace HashChain

variable {Content Tag : Type} {tag : Option Tag → Content → Tag}

/-- Each content with the tag before it. -/
def links (tag : Option Tag → Content → Tag) (previous : Option Tag) :
    List Content → List (Option Tag × Content)
  | [] => []
  | content :: rest =>
      (previous, content) :: links tag (some (tag previous content)) rest

/-- The tag after the last content. -/
def terminal (tag : Option Tag → Content → Tag) (previous : Option Tag) :
    List Content → Option Tag
  | [] => previous
  | content :: rest => terminal tag (some (tag previous content)) rest

theorem links_append (previous : Option Tag) (first second : List Content) :
    links tag previous (first ++ second) =
      links tag previous first ++
        links tag (terminal tag previous first) second := by
  induction first generalizing previous with
  | nil => rfl
  | cons content rest induction => simp [links, terminal, induction]

theorem terminal_append (previous : Option Tag)
    (first second : List Content) :
    terminal tag previous (first ++ second) =
      terminal tag (terminal tag previous first) second := by
  induction first generalizing previous with
  | nil => rfl
  | cons content rest induction => simp [terminal, induction]

/-- Every tag a link starts from, and the terminal one. -/
def heads (tag : Option Tag → Content → Tag) (contents : List Content) :
    List (Option Tag) :=
  (links tag none contents).map Prod.fst ++ [terminal tag none contents]

theorem heads_concat (contents : List Content) (content : Content) :
    heads tag (contents ++ [content]) =
      heads tag contents ++
        [some (tag (terminal tag none contents) content)] := by
  simp [heads, links_append, links, terminal_append, terminal]

/-- A tag of the chain is none or was made by one of its links. -/
theorem mem_heads {contents : List Content} {head : Option Tag}
    (member : head ∈ heads tag contents) :
    head = none ∨ ∃ link ∈ links tag none contents,
      head = some (tag link.1 link.2) := by
  induction contents using List.reverseRecOn with
  | nil =>
      left
      simpa [heads, links, terminal] using member
  | append_singleton contents content induction =>
      rw [heads_concat] at member
      rw [links_append]
      rcases List.mem_append.mp member with before | last
      · rcases induction before with isNone | ⟨link, linkMember, same⟩
        · exact .inl isNone
        · exact .inr ⟨link, List.mem_append_left _ linkMember, same⟩
      · right
        refine ⟨(terminal tag none contents, content), ?_,
          List.mem_singleton.mp last⟩
        simp [links]

/-- The tag determines the content and the tag before it. -/
def InjectiveTag (tag : Option Tag → Content → Tag) : Prop :=
  ∀ previous content previous' content',
    tag previous content = tag previous' content' →
      previous = previous' ∧ content = content'

section Injective

variable (injective : InjectiveTag tag)

include injective

/-- No tag occurs twice in a chain. -/
theorem nodup_heads (contents : List Content) :
    (heads tag contents).Nodup := by
  induction contents using List.reverseRecOn with
  | nil => simp [heads, links, terminal]
  | append_singleton contents content induction =>
      rw [heads_concat, List.nodup_append]
      refine ⟨induction, List.nodup_singleton _, ?_⟩
      intro head member last lastMember same
      rw [List.mem_singleton.mp lastMember] at same
      rcases mem_heads member with isNone | ⟨link, linkMember, made⟩
      · rw [isNone] at same
        cases same
      · -- The link that made the tag would start at the terminal tag.
        rw [made] at same
        have startsAtEnd := (injective _ _ _ _ (Option.some.inj same)).1
        rw [heads, List.nodup_append] at induction
        exact induction.2.2 link.1 (List.mem_map_of_mem linkMember) _
          (List.mem_singleton_self _) startsAtEnd

/-- A link that continues the chain is the next genuine one. -/
theorem next_link {before after : List Content} {content : Content}
    (genuine : (terminal tag none before, content) ∈
      links tag none (before ++ after)) :
    ∃ rest, after = content :: rest := by
  have distinct := nodup_heads injective (before ++ after)
  have startsDistinct : ((links tag none (before ++ after)).map
      Prod.fst).Nodup := (List.nodup_append.mp distinct).1
  cases after with
  | nil =>
      -- The chain has ended: no link starts at its terminal tag.
      rw [List.append_nil] at genuine distinct
      exact absurd rfl ((List.nodup_append.mp distinct).2.2 _
        (List.mem_map_of_mem genuine) _ (List.mem_singleton_self _))
  | cons next rest =>
      have nextMember : (terminal tag none before, next) ∈
          links tag none (before ++ next :: rest) := by
        rw [links_append]
        exact List.mem_append_right _ List.mem_cons_self
      have same := List.inj_on_of_nodup_map startsDistinct genuine nextMember
        rfl
      rw [(Prod.mk.inj same).2]
      exact ⟨rest, rfl⟩

private theorem prefix_of_genuine_links_from (before : List Content)
    {stored genuine : List Content}
    (linked : ∀ link ∈ links tag (terminal tag none before) stored,
      link ∈ links tag none (before ++ genuine)) : stored <+: genuine := by
  induction stored generalizing before genuine with
  | nil => exact List.nil_prefix
  | cons content stored induction =>
      have first := linked (terminal tag none before, content)
        List.mem_cons_self
      obtain ⟨rest, rfl⟩ := next_link injective first
      rw [List.prefix_cons_inj]
      apply induction (before ++ [content])
      intro link member
      rw [terminal_append] at member
      have isLinked := linked link (List.mem_cons_of_mem _ member)
      simpa using isLinked

/-- A chain whose links are all links of the genuine chain is a prefix of
it. -/
theorem prefix_of_genuine_links {stored genuine : List Content}
    (linked : ∀ link ∈ links tag none stored, link ∈ links tag none genuine) :
    stored <+: genuine := by
  exact prefix_of_genuine_links_from injective [] linked

end Injective

end HashChain

end ControlForge
