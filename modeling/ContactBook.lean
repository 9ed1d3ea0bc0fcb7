import ContactBook.Main
import ContactBook.Proofs.Clause.Edits
import ContactBook.Proofs.Deletion.BatchSize
import ContactBook.Proofs.Deletion.Explicit
import ContactBook.Proofs.Deletion.Preview
import ContactBook.Proofs.Deletion.Sequence
import ContactBook.Proofs.Deletion.Stages
import ContactBook.Proofs.Filter.Admission
import ContactBook.Proofs.Http.Session
import ContactBook.Proofs.Isolation
import ContactBook.Proofs.Query.Data
import ContactBook.Proofs.Query.Days
import ContactBook.Proofs.Query.Listing
import ContactBook.Proofs.Query.Literal
import ContactBook.Proofs.Statement.Agreement
import ContactBook.Proofs.Store.Runs
import ContactBook.Proofs.Store.Tagging
import ContactBook.Proofs.Text.Exactness
