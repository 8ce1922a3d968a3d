import MediaNaming.Main
import MediaNaming.Script.TreeJson
import MediaNaming.Storage.Disk
import MediaNaming.Proofs.Grammar.Completeness.Expressions
import MediaNaming.Proofs.Grammar.Completeness.Statements
import MediaNaming.Proofs.Grammar.Concatenation
import MediaNaming.Proofs.Grammar.Expressions
import MediaNaming.Proofs.Grammar.Places
import MediaNaming.Proofs.Grammar.Soundness
import MediaNaming.Proofs.Grammar.Statements
import MediaNaming.Proofs.Grammar.Tokens
import MediaNaming.Proofs.Grammar.Words
import MediaNaming.Proofs.Printing.Spelling
import MediaNaming.Proofs.Results
import MediaNaming.Proofs.Printing.Expressions
import MediaNaming.Proofs.Printing.Programs
import MediaNaming.Proofs.Renaming.Outcomes
import MediaNaming.Proofs.Paths.Resolution
import MediaNaming.Proofs.Placement.Segments
import MediaNaming.Proofs.Renaming.Containment
import MediaNaming.Proofs.Placement.Levels
import MediaNaming.Proofs.Media.Runs
import MediaNaming.Proofs.Media.Ranges
import MediaNaming.Proofs.Media.Owned
import MediaNaming.Proofs.Evaluation.Programs
import MediaNaming.Proofs.Renaming.History
import MediaNaming.Proofs.Renaming.Stores
import MediaNaming.Proofs.Evaluation.Lookups
import MediaNaming.Proofs.Evaluation.Visibility
import MediaNaming.Proofs.Paths.Extensions
import MediaNaming.Proofs.Text.Trimming
import MediaNaming.Proofs.Renaming.Restriction
import MediaNaming.Proofs.Renaming.Settling
import MediaNaming.Proofs.Placement.Cleaning
import MediaNaming.Proofs.Renaming.Names
import MediaNaming.Proofs.Json.Sameness
import MediaNaming.Proofs.Json.Trees
import MediaNaming.Proofs.Json.Requests
import MediaNaming.Proofs.Json.Scalars
import MediaNaming.Proofs.Json.Layouts
import MediaNaming.Proofs.Media.Dates
import MediaNaming.Proofs.Lexing.Gaps
import MediaNaming.Proofs.Lexing.Lexemes
import MediaNaming.Proofs.Lexing.Positions
import MediaNaming.Proofs.Placement.Stages
import MediaNaming.Proofs.Placement.Wildcards
import MediaNaming.Proofs.Placement.Depths
import MediaNaming.Proofs.Placement.Folders
import MediaNaming.Proofs.Renaming.Edits
import MediaNaming.Proofs.Renaming.Exclusion
import MediaNaming.Proofs.Paths.Locations
import MediaNaming.Proofs.Placement.Staying
import MediaNaming.Proofs.Paths.Joining
import MediaNaming.Proofs.Renaming.NewPaths
import MediaNaming.Proofs.Renaming.FileNames
import MediaNaming.Proofs.Text.Lowering
import MediaNaming.Proofs.Evaluation.Comparisons
import MediaNaming.Proofs.Evaluation.Filters
import MediaNaming.Proofs.Evaluation.TitleSearch
import MediaNaming.Proofs.Placement.FolderSearch
import MediaNaming.Proofs.Evaluation.Leaves
import MediaNaming.Proofs.Renaming.Regrouping
import MediaNaming.Proofs.Placement.CleanNames
import MediaNaming.Proofs.Renaming.CarriedExtensions
import MediaNaming.Proofs.Media.Blocks
import MediaNaming.Proofs.Grammar.Atoms
import MediaNaming.Proofs.Lexing.Writing
import MediaNaming.Proofs.Lexing.Boundaries
import MediaNaming.Proofs.Grammar.Progress
import MediaNaming.Proofs.Evaluation.TitleChoice
import MediaNaming.Proofs.Evaluation.Padding
import MediaNaming.Proofs.Evaluation.Slices
import MediaNaming.Proofs.Paths.NewExtensions
import MediaNaming.Proofs.Storage.Runs
import MediaNaming.Proofs.Storage.Saving
