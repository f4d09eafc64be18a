import FiniteGroups.Map.Automorphism
import FiniteGroups.Method
import FiniteGroups.Options.Basic
import FiniteGroups.Proofs.Actions
import FiniteGroups.Proofs.AllSubgroups
import FiniteGroups.Proofs.Assignment
import FiniteGroups.Proofs.Bijections
import FiniteGroups.Proofs.Bijectivity
import FiniteGroups.Proofs.Blocks
import FiniteGroups.Proofs.Centralizers
import FiniteGroups.Proofs.CheckedSubgroups
import FiniteGroups.Proofs.Checks
import FiniteGroups.Proofs.Choices
import FiniteGroups.Proofs.ClosedLists
import FiniteGroups.Proofs.Closure
import FiniteGroups.Proofs.Coatoms
import FiniteGroups.Proofs.Collection
import FiniteGroups.Proofs.Commutators
import FiniteGroups.Proofs.Commuting
import FiniteGroups.Proofs.Computation
import FiniteGroups.Proofs.ConjugacyClasses
import FiniteGroups.Proofs.Conjugates
import FiniteGroups.Proofs.Correspondence
import FiniteGroups.Proofs.CosetActions
import FiniteGroups.Proofs.CosetPartitions
import FiniteGroups.Proofs.Cosets
import FiniteGroups.Proofs.CycleNotation
import FiniteGroups.Proofs.CycleText
import FiniteGroups.Proofs.CycleTypes
import FiniteGroups.Proofs.Cycles
import FiniteGroups.Proofs.CyclicSearch
import FiniteGroups.Proofs.DirectProducts
import FiniteGroups.Proofs.Divisibility
import FiniteGroups.Proofs.Exponents
import FiniteGroups.Proofs.Extension
import FiniteGroups.Proofs.Extent
import FiniteGroups.Proofs.FamilyParameters
import FiniteGroups.Proofs.FirstIsomorphism
import FiniteGroups.Proofs.Frattini
import FiniteGroups.Proofs.Generated
import FiniteGroups.Proofs.Generation
import FiniteGroups.Proofs.GeneratorImages
import FiniteGroups.Proofs.GeneratorSearch
import FiniteGroups.Proofs.Graphs
import FiniteGroups.Proofs.Homomorphisms
import FiniteGroups.Proofs.InnerAutomorphisms
import FiniteGroups.Proofs.Intact
import FiniteGroups.Proofs.Intersections
import FiniteGroups.Proofs.Invariants
import FiniteGroups.Proofs.Inverses
import FiniteGroups.Proofs.ItemPermutations
import FiniteGroups.Proofs.Joins
import FiniteGroups.Proofs.Key
import FiniteGroups.Proofs.Laws
import FiniteGroups.Proofs.LimitedClosure
import FiniteGroups.Proofs.Literals
import FiniteGroups.Proofs.Lookups
import FiniteGroups.Proofs.MapComposition
import FiniteGroups.Proofs.MapValues
import FiniteGroups.Proofs.Maps
import FiniteGroups.Proofs.MaximalSubgroups
import FiniteGroups.Proofs.Normality
import FiniteGroups.Proofs.Numbering
import FiniteGroups.Proofs.Numbers
import FiniteGroups.Proofs.OptionValues
import FiniteGroups.Proofs.Orbits
import FiniteGroups.Proofs.Orders
import FiniteGroups.Proofs.OverlappingCycles
import FiniteGroups.Proofs.PermFamilies
import FiniteGroups.Proofs.PermGroups
import FiniteGroups.Proofs.PermImages
import FiniteGroups.Proofs.PermOrders
import FiniteGroups.Proofs.PermRep
import FiniteGroups.Proofs.PermValues
import FiniteGroups.Proofs.Powers
import FiniteGroups.Proofs.Products
import FiniteGroups.Proofs.Quotients
import FiniteGroups.Proofs.RealResidues
import FiniteGroups.Proofs.Realizes
import FiniteGroups.Proofs.Regular
import FiniteGroups.Proofs.RepeatedItems
import FiniteGroups.Proofs.ResidueFamilies
import FiniteGroups.Proofs.Residues
import FiniteGroups.Proofs.RestoredTables
import FiniteGroups.Proofs.Roster
import FiniteGroups.Proofs.SimpleGroups
import FiniteGroups.Proofs.Span
import FiniteGroups.Proofs.Stabilizers
import FiniteGroups.Proofs.SubgroupClasses
import FiniteGroups.Proofs.SubgroupLattice
import FiniteGroups.Proofs.SubgroupSearches
import FiniteGroups.Proofs.Subsets
import FiniteGroups.Proofs.TableGroups
import FiniteGroups.Proofs.Translates
import FiniteGroups.Proofs.UncheckedActions
import FiniteGroups.Proofs.UncheckedMaps
import FiniteGroups.Proofs.UncheckedSubgroups
import FiniteGroups.Proofs.Valid
import FiniteGroups.Proofs.Verdicts
import FiniteGroups.Proofs.Verification
import FiniteGroups.Proofs.Violations
import FiniteGroups.Proofs.Within
import FiniteGroups.Session
import FiniteGroups.Subgroup.Lattice
import FiniteGroups.Value.Counting
import FiniteGroups.Value.Residue
