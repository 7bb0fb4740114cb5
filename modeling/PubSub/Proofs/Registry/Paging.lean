import PubSub.Proofs.Pattern.Coverage
import PubSub.Proofs.Registry.Soundness
import Mathlib.Data.List.Nodup

/-! # Pages of listings

A listing sorts what a map of the registry holds and shows one page of it. The maps have no order of
their own, and neither does a page depend on one.

* **`Page.between start cuts`** — the pages between cut points, and **`Page.flatMap_items_between`** —
  put one behind the other, they show what lies between the first cut point and the last.
* **`Listing.Tiles`** — every page shows the items at its positions, and pages can be put together.
* **`Arranges key items shown`** — the items in an order in which the keys do not ascend;
  **`Arranges.unique`** — there is one such order only if items with the same key are equal.
* **`Listing.Presents`** — the pages are those of every such arrangement, in whatever order the
  entries of the map come.
* **`Registry.WellFormed.presentable`**, **`Registry.presentable_run_empty`** — all listings of a
  registry are of this kind, with ties only between spellings of one topic. -/

namespace PubSub

open Std (ExtTreeMap)

/-! ## (1) Pages -/

namespace Page

section

variable {α : Type} (p : Page) (xs : List α)

/-- A page shows the items **at its positions**, as far as there are any. -/
theorem getElem?_items (i : Nat) :
    (p.items xs)[i]? =
      if p.start.toNat + i < min p.stop.toNat xs.length then xs[p.start.toNat + i]? else none := by
  rw [items, List.getElem?_take, List.getElem?_drop]
  by_cases hstop : i < p.stop.toNat - p.start.toNat
  · by_cases hlength : p.start.toNat + i < xs.length
    · rw [if_pos hstop, if_pos (by omega)]
    · rw [if_pos hstop, if_neg (by omega), List.getElem?_eq_none (Nat.le_of_not_lt hlength)]
  · rw [if_neg hstop, if_neg (by omega)]

/-- A page is empty if it ends where it starts or before, or starts behind the last item. -/
theorem items_eq_nil_iff : p.items xs = [] ↔ p.stop ≤ p.start ∨ xs.length ≤ p.start.toNat := by
  rw [items, List.take_eq_nil_iff, List.drop_eq_nil_iff, UInt64.le_iff_toNat_le]
  omega

end

/-- The pages **between cut points**, of which `start` is the first. -/
def between (start : UInt64) : List UInt64 → List Page
  | [] => []
  | cut :: cuts => ⟨start, cut⟩ :: between cut cuts

/-- Ascending cut points end at the first one or behind it. -/
theorem le_getLastD {start : UInt64} {cuts : List UInt64}
    (h : (start :: cuts).IsChain (· ≤ ·)) : start ≤ cuts.getLastD start := by
  induction cuts generalizing start with
  | nil => exact UInt64.le_refl start
  | cons cut cuts ih =>
    obtain ⟨hcut, hcuts⟩ := List.isChain_cons_cons.mp h
    rw [List.getLastD_cons]
    exact UInt64.le_trans hcut (ih hcuts)

/-- **Pages between ascending cut points**, put one behind the other, show what lies between the first
cut point and the last. -/
theorem flatMap_items_between {α : Type} (xs : List α) {start : UInt64} {cuts : List UInt64}
    (h : (start :: cuts).IsChain (· ≤ ·)) :
    (between start cuts).flatMap (·.items xs) =
      (xs.drop start.toNat).take ((cuts.getLastD start).toNat - start.toNat) := by
  induction cuts generalizing start with
  | nil =>
    rw [between, List.flatMap_nil, List.getLastD_nil, Nat.sub_self, List.take_zero]
  | cons cut cuts ih =>
    obtain ⟨hcut, hcuts⟩ := List.isChain_cons_cons.mp h
    have hstart : start.toNat ≤ cut.toNat := UInt64.le_iff_toNat_le.mp hcut
    have hlast : cut.toNat ≤ (cuts.getLastD cut).toNat :=
      UInt64.le_iff_toNat_le.mp (le_getLastD hcuts)
    -- the first page ends where the pages behind it start
    have hsplit : (cuts.getLastD cut).toNat - start.toNat =
        (cut.toNat - start.toNat) + ((cuts.getLastD cut).toNat - cut.toNat) := by omega
    have hdrop : start.toNat + (cut.toNat - start.toNat) = cut.toNat := by omega
    rw [between, List.flatMap_cons, ih hcuts, List.getLastD_cons, hsplit, List.take_add,
      List.drop_drop, hdrop, items]

end Page

/-! ## (2) Tiling -/

/-- The pages of a listing **tile** a list: each shows the items at its positions, and pages between
cut points can be put together. -/
structure Listing.Tiles {α : Type} (listing : Page → Listing α) (full : List α) : Prop where
  /-- The total is the same for every page. -/
  total_eq : ∀ page, (listing page).total = full.length
  /-- A page shows the items at the positions from its start up to its end or the last item. -/
  getElem?_items : ∀ page i, (listing page).items[i]? =
    if page.start.toNat + i < min page.stop.toNat full.length then full[page.start.toNat + i]?
    else none
  /-- A page without positions is empty, and no other one is. -/
  items_eq_nil_iff : ∀ page, (listing page).items = [] ↔
    page.stop ≤ page.start ∨ full.length ≤ page.start.toNat
  /-- From the first item to the last, the pages between cut points show everything once. -/
  flatMap_items : ∀ cuts : List UInt64, (0 :: cuts).IsChain (· ≤ ·) →
    full.length ≤ (cuts.getLastD 0).toNat →
      (Page.between 0 cuts).flatMap (fun page => (listing page).items) = full

/-- **The pages of a list tile it.** -/
theorem Listing.tiles_ofList {α : Type} (full : List α) : Tiles (ofList full) full where
  total_eq _ := rfl
  getElem?_items page i := page.getElem?_items full i
  items_eq_nil_iff page := page.items_eq_nil_iff full
  flatMap_items cuts hcuts hlast := by
    have hpages := Page.flatMap_items_between full hcuts
    rw [UInt64.toNat_zero, List.drop_zero, Nat.sub_zero, List.take_of_length_le hlast] at hpages
    exact hpages

/-! ## (3) Arrangements -/

section Arrangements

variable {α β κ : Type} [LE κ]

/-- `shown` **arranges** the items so that their keys do not ascend. -/
structure Arranges (key : α → κ) (items shown : List α) : Prop where
  /-- The same items are shown, each as often. -/
  perm : shown.Perm items
  /-- No key is followed by a greater one. -/
  descending : shown.Pairwise fun a b => key b ≤ key a

/-- **There is one arrangement only**, in whatever order the items come, if items with the same key
are equal. -/
theorem Arranges.unique [Std.IsPartialOrder κ] {key : α → κ} {items items' shown shown' : List α}
    (h : Arranges key items shown) (h' : Arranges key items' shown') (hperm : items'.Perm items)
    (hties : ∀ a ∈ shown, ∀ b ∈ shown, key a = key b → a = b) : shown' = shown := by
  have hsame : shown'.Perm shown := h'.perm.trans (hperm.trans h.perm.symm)
  refine hsame.eq_of_pairwise (fun a b ha hb hba hab => ?_) h'.descending h.descending
  exact hties a (hsame.mem_iff.mp ha) b hb (Std.le_antisymm hab hba)

/-- A listing **presents** entries, with one item for each of them: it shows the pages of `full`, and
these are the pages of the items in any arrangement and for any order of the entries. -/
structure Listing.Presents (listing : Page → Listing α) (key : α → κ) (item : β → α)
    (entries : List β) (full : List α) : Prop where
  /-- The pages are those of one list. -/
  tiles : Tiles listing full
  /-- It arranges the items of the entries. -/
  arranges : Arranges key (entries.map item) full
  /-- No other order of the entries and no other way to arrange their items makes a difference. -/
  eq_ofList : ∀ order : List β, order.Perm entries → ∀ shown, Arranges key (order.map item) shown →
    ∀ page, listing page = .ofList shown page

/-- **An arrangement without ties** between different items is presented. -/
theorem Arranges.presents [Std.IsPartialOrder κ] {key : α → κ} {item : β → α}
    {entries : List β} {full : List α} (h : Arranges key (entries.map item) full)
    (hties : ∀ a ∈ full, ∀ b ∈ full, key a = key b → a = b) :
    Listing.Presents (.ofList full) key item entries full where
  tiles := Listing.tiles_ofList full
  arranges := h
  eq_ofList order horder shown hshown page := by
    rw [h.unique hshown (horder.map item) hties]

/-- **Items whose keys descend** are an arrangement without ties. -/
theorem Listing.presents_of_descending [LT κ] [Std.LawfulOrderLT κ] [Std.IsPartialOrder κ]
    {key : α → κ} {item : β → α} {entries : List β} {full : List α}
    (hperm : full.Perm (entries.map item)) (h : full.Pairwise fun a b => key b < key a) :
    Presents (.ofList full) key item entries full := by
  have hkeys : (full.map key).Nodup := by
    refine List.pairwise_map.mpr (h.imp fun {a b} hlt heq => ?_)
    rw [heq] at hlt
    exact Std.lt_irrefl hlt
  have harranges : Arranges key (entries.map item) full := ⟨hperm, h.imp Std.le_of_lt⟩
  exact harranges.presents fun a ha b hb => List.inj_on_of_nodup_map hkeys ha hb

end Arrangements

/-! ## (4) The listings of a registry -/

/-- The **item** that a listing shows for a raw title of a client. -/
def Registry.subscriptionOf (r : Registry) (client : ClientId) (held : String × TopicKey) :
    Subscription :=
  ⟨client, held.2.title, r.subscribedAt client held.2⟩

/-- A registry is **presentable** if its listings are, each for the entries of one of its maps. -/
structure Registry.Presentable (r : Registry) : Prop where
  /-- The topics of a kind are listed. -/
  topics : ∀ kind, Listing.Presents (r.topics kind) TopicSummary.title (fun entry => entry.2.summary)
    (r.index.topics kind).toList (r.allTopics kind)
  /-- Their titles descend. -/
  topics_descending : ∀ kind, (r.allTopics kind).Pairwise fun s s' => s'.title < s.title
  /-- The subscribers of a topic are listed under every raw title that names it. -/
  subscribersOf_eq : ∀ raw title topic, Title.canonicalize raw = .ok title →
    r.index.get? title.key = some topic →
      ∀ page, r.subscribersOf raw page = .ok (.ofList (allSubscribersOf topic) page)
  /-- They are listed one by one. -/
  subscribers : ∀ key topic, r.index.get? key = some topic →
    Listing.Presents (.ofList (allSubscribersOf topic)) Subscription.client
      (fun entry => ⟨entry.1, key.title, entry.2⟩) topic.subscribers.toList (allSubscribersOf topic)
  /-- Their numbers descend. -/
  subscribers_descending : ∀ key topic, r.index.get? key = some topic →
    (allSubscribersOf topic).Pairwise fun s s' => s'.client < s.client
  /-- The subscriptions of a client with an entry are listed. -/
  subscriptionsOf_eq : ∀ client entry, r.clients[client]? = some entry →
    ∀ page, r.subscriptionsOf client page = .ok (.ofList (r.allSubscriptionsOf client entry) page)
  /-- There is one for each raw title, and their titles do not ascend. -/
  subscriptions : ∀ client entry, r.clients[client]? = some entry →
    Listing.Presents (.ofList (r.allSubscriptionsOf client entry)) Subscription.title
      (r.subscriptionOf client) entry.held.toList (r.allSubscriptionsOf client entry)
  /-- Those with the same title are the same. -/
  subscriptions_ties : ∀ client entry, r.clients[client]? = some entry →
    ∀ s ∈ r.allSubscriptionsOf client entry, ∀ s' ∈ r.allSubscriptionsOf client entry,
      s.title = s'.title → s = s'

namespace Registry

/-- The topics are listed in the order of their titles, from the last to the first. -/
theorem descending_allTopics {r : Registry} (h : r.index.Filed) (kind : Kind) :
    (r.allTopics kind).Pairwise fun s s' => s'.title < s.title := by
  rw [allTopics, List.pairwise_map, List.pairwise_reverse]
  refine ExtTreeMap.ordered_keys_toList.imp_of_mem fun {a b} ha hb hlt => ?_
  -- a topic is filed under its title
  have htitle : ∀ entry ∈ (r.index.topics kind).toList, entry.2.summary.title = entry.1 :=
    fun entry hentry =>
      (h ⟨entry.1, kind⟩ entry.2 (ExtTreeMap.mem_toList_iff_getElem?_eq_some.mp hentry)).text_eq
  rw [htitle a ha, htitle b hb]
  exact compareOfLessAndEq_eq_lt.mp hlt

/-- The subscribers of a topic are listed with descending clients. -/
theorem descending_allSubscribersOf (topic : Topic) :
    (allSubscribersOf topic).Pairwise fun s s' => s'.client < s.client := by
  rw [allSubscribersOf, List.pairwise_map, List.pairwise_reverse]
  exact ExtTreeMap.ordered_keys_toList.imp fun hlt => Std.compare_eq_lt.mp hlt

/-- All topics of a kind are listed, each once. -/
theorem perm_allTopics (r : Registry) (kind : Kind) :
    (r.allTopics kind).Perm ((r.index.topics kind).toList.map fun entry => entry.2.summary) :=
  (List.reverse_perm _).map _

/-- All subscribers of a topic are listed, each once. -/
theorem perm_allSubscribersOf (topic : Topic) :
    (allSubscribersOf topic).Perm
      (topic.subscribers.toList.map fun entry => ⟨entry.1, topic.title.text, entry.2⟩) :=
  (List.reverse_perm _).map _

/-- The subscriptions of an entry are sorted by their titles. -/
theorem arranges_allSubscriptionsOf (r : Registry) (client : ClientId) (entry : Entry) :
    Arranges Subscription.title (entry.held.toList.map (r.subscriptionOf client))
      (r.allSubscriptionsOf client entry) where
  perm := List.mergeSort_perm _ _
  descending := by
    have hsorted : (r.allSubscriptionsOf client entry).Pairwise fun s s' =>
        decide (s'.title ≤ s.title) = true := by
      refine List.pairwise_mergeSort (fun a b c hba hcb => ?_) (fun a b => ?_) _
      · rw [decide_eq_true_eq] at hba hcb ⊢
        exact String.le_trans hcb hba
      · rw [Bool.or_eq_true, decide_eq_true_eq, decide_eq_true_eq]
        exact String.le_total b.title a.title
    exact hsorted.imp of_decide_eq_true

namespace WellFormed

variable {r : Registry}

/-- **Raw titles for topics with the same text** are held for the same topic. -/
theorem key_eq_of_title_eq (h : r.WellFormed) {client client' : ClientId} {raw raw' : String}
    {key key' : TopicKey} (hheld : r.held client raw = some key)
    (hheld' : r.held client' raw' = some key') (htitle : key.title = key'.title) : key = key' := by
  obtain ⟨t, ht, rfl⟩ := h.held_key client raw key hheld
  obtain ⟨t', ht', rfl⟩ := h.held_key client' raw' key' hheld'
  rw [Title.eq_of_text_eq ht ht' htitle]

/-- **Spellings of one topic** are listed alike. -/
theorem eq_of_mem_allSubscriptionsOf (h : r.WellFormed) {client : ClientId} {entry : Entry}
    (hentry : r.clients[client]? = some entry) {s s' : Subscription}
    (hs : s ∈ r.allSubscriptionsOf client entry) (hs' : s' ∈ r.allSubscriptionsOf client entry)
    (htitle : s.title = s'.title) : s = s' := by
  have hheld : ∀ item ∈ entry.held.toList, r.held client item.1 = some item.2 := by
    intro item hitem
    rw [held, hentry]
    exact ExtTreeMap.mem_toList_iff_getElem?_eq_some.mp hitem
  rw [(r.arranges_allSubscriptionsOf client entry).perm.mem_iff, List.mem_map] at hs hs'
  obtain ⟨item, hitem, rfl⟩ := hs
  obtain ⟨item', hitem', rfl⟩ := hs'
  rw [subscriptionOf, subscriptionOf,
    h.key_eq_of_title_eq (hheld item hitem) (hheld item' hitem') htitle]

/-- The invariant is all it takes to be presentable. -/
theorem presentable (h : r.WellFormed) : r.Presentable where
  topics kind := Listing.presents_of_descending (r.perm_allTopics kind)
    (descending_allTopics h.filed kind)
  topics_descending := descending_allTopics h.filed
  subscribersOf_eq raw title topic hraw hget page := by
    rw [subscribersOf, hraw]
    simp only [hget]
  subscribers key topic hget := by
    rw [← (h.filed key topic hget).text_eq]
    exact Listing.presents_of_descending (perm_allSubscribersOf topic)
      (descending_allSubscribersOf topic)
  subscribers_descending key topic _ := descending_allSubscribersOf topic
  subscriptionsOf_eq client entry hentry page := by
    rw [subscriptionsOf, hentry]
  subscriptions client entry hentry :=
    (r.arranges_allSubscriptionsOf client entry).presents fun s hs s' hs' =>
      h.eq_of_mem_allSubscriptionsOf hentry hs hs'
  subscriptions_ties client entry hentry s hs s' hs' :=
    h.eq_of_mem_allSubscriptionsOf hentry hs hs'

end WellFormed

/-- **Pages tile the listings, whatever the order of the maps.** After any history, every listing has
one full list: its pages show the items at their positions, and between ascending cut points from 0 to
the total or beyond they show every item once. Topics are listed by descending titles, subscribers by
descending numbers, and the subscriptions of a client by titles that do not ascend, one for each raw
title, where those with the same title are the same; so every page is the same for every order in
which the entries of the maps come. -/
theorem presentable_run_empty (ops : List (Time × Operation)) :
    (empty.run ops).1.Presentable :=
  (wellFormed_empty.run ops).presentable

/-- Client 1 is on two topics, on one of them under two spellings. Its listing is the only arrangement
of its three subscriptions, and two pages show it all. -/
theorem presentable_run_empty_spellings :
    let r := (empty.run [(1, .subscribe 1 ["a", "b", "/a/"] .qos0)]).1
    let shown : List Subscription := [⟨1, "/b", 1⟩, ⟨1, "/a", 1⟩, ⟨1, "/a", 1⟩]
    ∃ entry, r.clients[(1 : ClientId)]? = some entry ∧
      (∀ page, r.subscriptionsOf 1 page = .ok (.ofList shown page)) ∧
      (Page.between 0 [2, 5]).flatMap (fun page => page.items (r.allSubscriptionsOf 1 entry)) =
        r.allSubscriptionsOf 1 entry := by
  intro r shown
  have hpresentable : r.Presentable := presentable_run_empty _
  have hheld : r.clients[(1 : ClientId)]?.map (·.held.toList) =
      some [("/a/", ⟨"/a", .plain⟩), ("a", ⟨"/a", .plain⟩), ("b", ⟨"/b", .plain⟩)] := by rfl
  obtain ⟨entry, hentry, hlist⟩ := Option.map_eq_some_iff.mp hheld
  have hpresents := hpresentable.subscriptions 1 entry hentry
  have hlisting : ∀ page,
      Listing.ofList (r.allSubscriptionsOf 1 entry) page = .ofList shown page := by
    -- the entries come in the opposite order, in which their items are as shown
    refine hpresents.eq_ofList entry.held.toList.reverse (List.reverse_perm _) shown ⟨?_, ?_⟩
    · rw [hlist]
      exact List.Perm.refl _
    · decide
  have htotal : (r.allSubscriptionsOf 1 entry).length = 3 :=
    congrArg Listing.total (hlisting ⟨0, 0⟩)
  refine ⟨entry, hentry, fun page => ?_, ?_⟩
  · rw [hpresentable.subscriptionsOf_eq 1 entry hentry page, hlisting page]
  · exact hpresents.tiles.flatMap_items [2, 5] (by decide) (by rw [htotal]; decide)

end Registry

end PubSub
