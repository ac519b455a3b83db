import TableClasses.Files.Tree
import TableClasses.Main
import TableClasses.Proofs.Canonical
import TableClasses.Proofs.ClassFiles
import TableClasses.Proofs.ClassStrings
import TableClasses.Proofs.Comments
import TableClasses.Proofs.DryRuns
import TableClasses.Proofs.Groups
import TableClasses.Proofs.Independence
import TableClasses.Proofs.Links
import TableClasses.Proofs.MemberNames
import TableClasses.Proofs.Reading
import TableClasses.Proofs.RowRoundTrip
import TableClasses.Proofs.UnfitDocuments
import TableClasses.Proofs.Accounts
import TableClasses.Proofs.Alignment
import TableClasses.Proofs.UsableNames
import TableClasses.Proofs.Arguments
import TableClasses.Proofs.TypeNames
import TableClasses.Proofs.Constructors
import TableClasses.Proofs.Differences
import TableClasses.Proofs.TableFaults
import TableClasses.Proofs.Records
import TableClasses.Proofs.Selection
import TableClasses.Proofs.ColumnFacts
import TableClasses.Proofs.Lengths
import TableClasses.Proofs.DefaultTexts
import TableClasses.Proofs.StoredTexts
import TableClasses.Proofs.Ancestry
import TableClasses.Proofs.Escapes
import TableClasses.Proofs.Keywords
