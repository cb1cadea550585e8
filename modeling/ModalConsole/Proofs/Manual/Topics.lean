import ModalConsole.Manual.Pages
import ModalConsole.Proofs.Text.LetterCase

/-!
# Topics of the manual

A pager looks a topic up by its key: lower-cased, and without the blanks around it. The topics that
its pages list are taken as they are. So a listed topic is found if it is its own key, as all of the
manual are, and one that is listed in another form leads astray.

* `topicKey`, `topicKey_topicKey`: the key of a topic, which is its own key.
* `FirstListing`: the first page that lists a topic.
* `pageFor_eq_some_iff`, `hasTopic_iff`: looking up a topic finds the first page that lists its key.
  `Pager.Serves`, `serves_iff`: when this is the first page that lists the topic itself.
* **`topics_lead_by_key`**: where every topic leads, listed or not.
* **`listed_topic_not_found`**: a listed topic that leads nowhere.
-/

namespace ModalConsole

open Text

/-- The form in which a topic is looked up. -/
def topicKey (topic : String) : String := lowered (trimmed topic)

/-- A key is looked up as it is. -/
theorem topicKey_topicKey (topic : String) : topicKey (topicKey topic) = topicKey topic := by
  have htrim : trim (lower (trim topic.toList)) = lower (trim topic.toList) :=
    (solidEnds_trim topic.toList).lower.trim_eq
  simp only [topicKey, lowered, trimmed, String.toList_ofList, htrim, lower_lower]

/-- The page with this number is the first that lists the topic. -/
structure FirstListing (pages : List Page) (topic : String) (number : Nat) : Prop where
  lists : ∃ page, pages[number]? = some page ∧ topic ∈ page.topics
  first : ∀ other page, pages[other]? = some page → topic ∈ page.topics → number ≤ other

theorem firstListing_iff {pages : List Page} {topic : String} {number : Nat} :
    FirstListing pages topic number ↔
      pages.findIdx? (fun page => page.topics.contains topic) = some number := by
  rw [List.findIdx?_eq_some_iff_getElem]
  simp only [List.contains_iff_mem]
  constructor
  · rintro ⟨⟨page, hpage, htopic⟩, hfirst⟩
    obtain ⟨hlt, rfl⟩ := List.getElem?_eq_some_iff.mp hpage
    exact ⟨hlt, htopic, fun other hbefore hother =>
      absurd (hfirst other _ (List.getElem?_eq_getElem _) hother) (Nat.not_le_of_lt hbefore)⟩
  · rintro ⟨hlt, hlists, hfirst⟩
    refine ⟨⟨_, List.getElem?_eq_getElem hlt, hlists⟩, fun other page hother htopic => ?_⟩
    obtain ⟨hother, rfl⟩ := List.getElem?_eq_some_iff.mp hother
    exact Nat.le_of_not_lt fun hbefore => hfirst other hbefore htopic

/-- If a page lists a topic, one of them is the first. -/
theorem exists_firstListing {pages : List Page} {topic : String} {page : Page}
    (hpage : page ∈ pages) (htopic : topic ∈ page.topics) :
    ∃ number, FirstListing pages topic number := by
  cases hfind : pages.findIdx? (fun page => page.topics.contains topic) with
  | some number => exact ⟨number, firstListing_iff.mpr hfind⟩
  | none =>
    have hcontains := List.findIdx?_eq_none_iff.mp hfind page hpage
    rw [List.contains_iff_mem.mpr htopic] at hcontains
    cases hcontains

namespace Pager

variable {p : Pager} {topic : String} {number : Nat}

/-! ## Looking up -/

theorem pageFor_eq_some_iff :
    p.pageFor topic = some number ↔ FirstListing p.pages (topicKey topic) number :=
  firstListing_iff.symm

theorem hasTopic_iff :
    p.hasTopic topic = true ↔ ∃ page ∈ p.pages, topicKey topic ∈ page.topics := by
  constructor
  · intro h
    obtain ⟨number, hnumber⟩ := Option.isSome_iff_exists.mp h
    obtain ⟨page, hpage, htopic⟩ := (pageFor_eq_some_iff.mp hnumber).lists
    exact ⟨page, List.mem_of_getElem? hpage, htopic⟩
  · rintro ⟨page, hpage, htopic⟩
    obtain ⟨number, hnumber⟩ := exists_firstListing hpage htopic
    exact Option.isSome_iff_exists.mpr ⟨number, pageFor_eq_some_iff.mpr hnumber⟩

/-- A topic whose key is listed opens the first page that lists it. -/
theorem openAt_of_firstListing (h : FirstListing p.pages (topicKey topic) number) :
    p.openAt (some topic) = { p with page := number, scroll := 0, mode := .viewing } := by
  rw [openAt, Option.bind_some, pageFor_eq_some_iff.mpr h]
  rfl

/-- A topic without a page opens the first one. -/
theorem openAt_of_not_hasTopic (h : p.hasTopic topic = false) :
    p.openAt (some topic) = { p with page := 0, scroll := 0, mode := .viewing } := by
  rw [openAt, Option.bind_some, Option.isNone_iff_eq_none.mp (Option.isSome_eq_false_iff.mp h)]
  rfl

/-! ## Listed topics -/

/-- The topic is found, and opens the first page that lists it. -/
structure Serves (p : Pager) (topic : String) : Prop where
  has : p.hasTopic topic = true
  opens : FirstListing p.pages topic (p.openAt (some topic)).page

/-- The topics that are served are those whose key is listed first on the same page. -/
theorem serves_iff : p.Serves topic ↔
    ∃ number, FirstListing p.pages topic number ∧ FirstListing p.pages (topicKey topic) number := by
  constructor
  · rintro ⟨hhas, hopens⟩
    obtain ⟨page, hpage, htopic⟩ := hasTopic_iff.mp hhas
    obtain ⟨number, hnumber⟩ := exists_firstListing hpage htopic
    rw [openAt_of_firstListing hnumber] at hopens
    exact ⟨number, hopens, hnumber⟩
  · rintro ⟨number, htopic, hkey⟩
    obtain ⟨page, hpage, hlisted⟩ := hkey.lists
    refine ⟨hasTopic_iff.mpr ⟨page, List.mem_of_getElem? hpage, hlisted⟩, ?_⟩
    rw [openAt_of_firstListing hkey]
    exact htopic

/-- The topics of the manual are their own keys. -/
theorem topicKey_of_mem_manualPages :
    ∀ page ∈ manualPages, ∀ topic ∈ page.topics, topicKey topic = topic := by
  decide

/-- **Topics lead by their keys.** In any pager, any topic is found iff a page lists its key; it
opens the first page that does, or else the first of all, in either case at the top and for viewing.
So a topic that agrees with no listed one up to case and the blanks around it is not found. A listed
topic is found and opens the first page that lists it iff this is also the first page that lists
its key; hence every listed topic that is its own key does, and in the manual all of them are. -/
theorem topics_lead_by_key (p : Pager) (topic : String) :
    (p.hasTopic topic = true ↔ ∃ page ∈ p.pages, topicKey topic ∈ page.topics) ∧
    (p.hasTopic topic = true →
      FirstListing p.pages (topicKey topic) (p.openAt (some topic)).page) ∧
    (p.hasTopic topic = false → (p.openAt (some topic)).page = 0) ∧
    ((p.openAt (some topic)).scroll = 0 ∧ (p.openAt (some topic)).mode = .viewing) ∧
    ((∀ page ∈ p.pages, ∀ listed ∈ page.topics, topicKey listed ≠ topicKey topic) →
      p.hasTopic topic = false) ∧
    (p.Serves topic ↔ ∃ number,
      FirstListing p.pages topic number ∧ FirstListing p.pages (topicKey topic) number) ∧
    (∀ page ∈ p.pages, topic ∈ page.topics → topicKey topic = topic → p.Serves topic) ∧
    ∀ page ∈ manualPages, ∀ listed ∈ page.topics, topicKey listed = listed := by
  refine ⟨hasTopic_iff, fun hhas => ?_, fun hnone => ?_, ⟨rfl, rfl⟩, fun hother => ?_, serves_iff,
    fun page hpage htopic hkey => ?_, topicKey_of_mem_manualPages⟩
  · obtain ⟨page, hpage, hlisted⟩ := hasTopic_iff.mp hhas
    obtain ⟨number, hnumber⟩ := exists_firstListing hpage hlisted
    rw [openAt_of_firstListing hnumber]
    exact hnumber
  · rw [openAt_of_not_hasTopic hnone]
  · refine Bool.eq_false_iff.mpr fun hhas => ?_
    obtain ⟨page, hpage, hlisted⟩ := hasTopic_iff.mp hhas
    exact hother page hpage _ hlisted (topicKey_topicKey topic)
  · obtain ⟨number, hnumber⟩ := exists_firstListing hpage htopic
    refine serves_iff.mpr ⟨number, hnumber, ?_⟩
    rw [hkey]
    exact hnumber

/-- **A listed topic that is not found.** Written in capitals, it opens the first page instead of
its own. -/
theorem listed_topic_not_found :
    let p := ofPages [⟨[], ["first"]⟩, ⟨["GRUB"], ["second"]⟩] 23
    FirstListing p.pages "GRUB" 1 ∧ p.hasTopic "GRUB" = false ∧
      (p.openAt (some "GRUB")).page = 0 ∧ ¬ p.Serves "GRUB" := by
  intro p
  have hlisted : FirstListing p.pages "GRUB" 1 := firstListing_iff.mpr (by decide)
  have hnone : p.hasTopic "GRUB" = false := by decide
  refine ⟨hlisted, hnone, by decide, fun hserves => ?_⟩
  rw [hserves.has] at hnone
  cases hnone

end Pager

end ModalConsole
